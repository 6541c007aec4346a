/-
  MetricQuery.Proofs.Time.Fit
  ───────────────────────────
  **WHICH CHANGES OF THE CLOCK A GRID SURVIVES.**

  A hop is one and a half buckets long.  It leads to the next key if every
  bucket ends at most that long after its key and no key is skipped, that is, if
  keys come in order and the last one before the buckets of the new offset lies
  more than half a bucket before them.  Whether this is so depends on the shift
  of the clock and on how long after the change the next bucket starts.

    • `Change.Fits`      — the condition on one change,
    • `Change.Seam`      — buckets before, during and after a change,
    • `Orderly.bucketKey_mono`, `Orderly.bucketKey_self` — keys in order,
    • `Seam.isFirstKey_hop`, `Seam.isFirstKey_enter` — on a smooth seam every step
                           of a walk leads to the first key that it can lead to,
    • `steps_iff_fits`   — the condition is necessary, too.
-/
import MetricQuery.Proofs.Time.Change

namespace MetricQuery

theorem Resolution.half_add_half (r : Resolution) : r.size / 2 + r.size / 2 = r.size := by
  cases r <;> rfl

theorem Resolution.size_le (r : Resolution) : r.size ≤ 86400 := by
  cases r <;> decide

namespace Change

variable {c : Change} {r : Resolution}

/-- The key of a bucket lies near its instants. -/
theorem bucketKey_near (hsmall : c.Small) (r : Resolution) (u : Int) :
    u - 97200 ≤ bucketKey c.clock r u ∧ bucketKey c.clock r u ≤ u + 10800 := by
  obtain ⟨hback, hforth⟩ := hsmall
  have hpos := r.size_pos
  have hle := r.size_le
  have hbefore := Int.emod_nonneg (u + c.before) (Int.ne_of_gt hpos)
  have hbefore' := Int.emod_lt_of_pos (u + c.before) hpos
  have hafter := Int.emod_nonneg (u + c.after) (Int.ne_of_gt hpos)
  have hafter' := Int.emod_lt_of_pos (u + c.after) hpos
  rcases bucketKey_cases c r u with ⟨-, heq⟩ | ⟨-, -, heq⟩ | ⟨-, -, heq⟩
  · omega
  · omega
  · omega

/-! ## §1. The condition. -/

/-- The change leaves no gap and no overlap in the walk of a grid. -/
def Fits (c : Change) (r : Resolution) : Prop :=
  if r = .day then
    -- A day may start twice only if it is over before its second start.
    0 ≤ c.shift ∨ c.wait r = 0 ∨ -c.shift ≤ c.wait r
  else if c.wait r = 0 then
    -- The last bucket of the old offset is cut short.
    2 * (c.shift % r.size) < r.size
  else
    -- The bucket under way is made longer or shorter by the shift.
    (c.shift = r.size ∧ 2 * c.wait r < r.size) ∨
      (-c.wait r ≤ c.shift ∧ -r.size ≤ 2 * c.shift ∧ 2 * c.shift < r.size)

instance (c : Change) (r : Resolution) : Decidable (c.Fits r) := by
  unfold Fits
  infer_instance

/-! ## §2. Seams. -/

/-- The instant starts a bucket by the old offset. -/
def Old (c : Change) (r : Resolution) (x : Int) : Prop :=
  (x + c.before) % r.size = 0

/-- The instant starts a bucket by the new offset. -/
def New (c : Change) (r : Resolution) (x : Int) : Prop :=
  (x + c.after) % r.size = 0

/-- Two starts by the same offset are at least a bucket apart. -/
theorem add_size_le {o x y : Int} (hx : (x + o) % r.size = 0) (hy : (y + o) % r.size = 0)
    (h : x < y) : x + r.size ≤ y := by
  have hdvd : r.size ∣ y - x := by
    have hsub := Int.dvd_sub (Int.dvd_of_emod_eq_zero hy) (Int.dvd_of_emod_eq_zero hx)
    rwa [show y + o - (x + o) = y - x by omega] at hsub
  have hle := Int.le_of_dvd (by omega) hdvd
  omega

theorem Old.step {x y : Int} (hx : c.Old r x) (hy : c.Old r y) (h : x < y) : x + r.size ≤ y :=
  add_size_le hx hy h

theorem New.step {x y : Int} (hx : c.New r x) (hy : c.New r y) (h : x < y) : x + r.size ≤ y :=
  add_size_le hx hy h

/-- Before the change an instant lies in a bucket of the old offset. -/
theorem seam_before {t : Int} (ht : t < c.instant) :
    c.Old r (bucketKey c.clock r t) ∧ bucketKey c.clock r t ≤ t ∧
      t < bucketKey c.clock r t + r.size := by
  have hnonneg := Int.emod_nonneg (t + c.before) (Int.ne_of_gt r.size_pos)
  have hlt := Int.emod_lt_of_pos (t + c.before) r.size_pos
  rw [bucketKey_of_lt ht]
  exact ⟨emod_size_sub r t c.before, by omega, by omega⟩

/-- Before the change keys come in order. -/
theorem bucketKey_mono_of_lt {t u : Int} (hu : u < c.instant) (h : t ≤ u) :
    bucketKey c.clock r t ≤ bucketKey c.clock r u := by
  obtain ⟨hold, hle, -⟩ := seam_before (r := r) (show t < c.instant by omega)
  obtain ⟨hold', -, hlt⟩ := seam_before (r := r) hu
  by_contra hn
  have hstep := hold'.step hold (by omega)
  omega

/-- Buckets around a change: those of the old offset before it, one that is under way, and those of
the new offset from `resume` on. -/
structure Seam (c : Change) (r : Resolution) (resume joint : Int) : Prop where
  instant_le : c.instant ≤ resume
  joint_old : c.Old r joint
  resume_new : c.New r resume
  before : ∀ t, t < c.instant → c.Old r (bucketKey c.clock r t) ∧
    bucketKey c.clock r t ≤ t ∧ t < bucketKey c.clock r t + r.size
  during : ∀ t, c.instant ≤ t → t < resume → bucketKey c.clock r t = joint
  after : ∀ t, resume ≤ t → c.New r (bucketKey c.clock r t) ∧
    resume ≤ bucketKey c.clock r t ∧ bucketKey c.clock r t ≤ t ∧
    t < bucketKey c.clock r t + r.size

namespace Seam

variable {resume joint : Int}

/-- The three kinds of keys. -/
theorem isKey_cases (s : c.Seam r resume joint) {k : Int} (hk : IsKey c.clock r k) :
    (k < c.instant ∧ c.Old r k) ∨ (c.instant < resume ∧ k = joint) ∨
      (resume ≤ k ∧ c.New r k) := by
  obtain ⟨t, rfl⟩ := hk
  by_cases ht : t < c.instant
  · obtain ⟨hold, hle, -⟩ := s.before t ht
    exact Or.inl ⟨by omega, hold⟩
  · by_cases hr : t < resume
    · exact Or.inr (Or.inl ⟨by omega, s.during t (by omega) hr⟩)
    · obtain ⟨hnew, hle, -, -⟩ := s.after t (by omega)
      exact Or.inr (Or.inr ⟨hle, hnew⟩)

/-! ## §3. Orderly seams. -/

/-- The key of the bucket under way is in order: not before the last start by the old offset, and
not after the first by the new one. -/
structure Orderly (c : Change) (r : Resolution) (resume joint : Int) : Prop where
  seam : c.Seam r resume joint
  joint_ge : c.instant < resume → c.instant ≤ joint + r.size
  joint_le : c.instant < resume → joint ≤ resume

namespace Orderly

/-- **On an orderly seam keys come in order.** -/
theorem bucketKey_mono (s : Orderly c r resume joint) {t u : Int} (h : t ≤ u) :
    bucketKey c.clock r t ≤ bucketKey c.clock r u := by
  have hge := s.joint_ge
  have hle := s.joint_le
  by_cases ht : t < c.instant
  · obtain ⟨hold, htle, -⟩ := s.seam.before t ht
    by_cases hu : u < c.instant
    · exact bucketKey_mono_of_lt hu h
    · by_cases hr : u < resume
      · rw [s.seam.during u (by omega) hr]
        by_contra hlt
        have hstep := s.seam.joint_old.step hold (by omega)
        omega
      · obtain ⟨-, hrle, -, -⟩ := s.seam.after u (by omega)
        have hinstant := s.seam.instant_le
        omega
  · by_cases hr : t < resume
    · rw [s.seam.during t (by omega) hr]
      by_cases hr' : u < resume
      · rw [s.seam.during u (by omega) hr']
      · obtain ⟨-, hrle, -, -⟩ := s.seam.after u (by omega)
        omega
    · obtain ⟨hnew, -, htle, -⟩ := s.seam.after t (by omega)
      obtain ⟨hnew', -, -, hult⟩ := s.seam.after u (by omega)
      by_contra hlt
      have hstep := hnew'.step hnew (by omega)
      omega

/-- **On an orderly seam a key is the key of its own bucket.** -/
theorem bucketKey_self (s : Orderly c r resume joint) {k : Int} (hk : IsKey c.clock r k) :
    bucketKey c.clock r k = k := by
  have hnew : ∀ x, resume ≤ x → c.New r x → bucketKey c.clock r x = x := by
    intro x hx hxnew
    obtain ⟨hnew, -, hle, hlt⟩ := s.seam.after x hx
    by_contra hne
    have hstep := hnew.step hxnew (by omega)
    omega
  rcases s.seam.isKey_cases hk with ⟨hlt, hkold⟩ | ⟨hresume, rfl⟩ | ⟨hle, hknew⟩
  · exact bucketKey_of_starts hlt hkold
  · by_cases hlt : k < c.instant
    · exact bucketKey_of_starts hlt s.seam.joint_old
    · by_cases hr : k < resume
      · exact s.seam.during k (by omega) hr
      · have heq : k = resume := by
          have hle := s.joint_le hresume
          omega
        exact hnew k (by omega) (by rw [heq]; exact s.seam.resume_new)
  · exact hnew k hle hknew

end Orderly

/-! ## §4. Smooth seams. -/

/-- The key of the bucket under way is in order, and no key comes too close to the buckets of the
new offset or too long before them. -/
structure Smooth (c : Change) (r : Resolution) (resume joint : Int) : Prop where
  seam : c.Seam r resume joint
  joint_ge : c.instant < resume → c.instant ≤ joint + r.size
  joint_le : c.instant < resume → joint ≤ resume
  joint_lt : c.instant < resume → joint < c.instant + r.size / 2
  reach : c.instant < resume → resume ≤ joint + r.size + r.size / 2
  apart : ∀ k, IsKey c.clock r k → k < resume → k + r.size / 2 < resume

namespace Smooth

theorem orderly (s : Smooth c r resume joint) : Orderly c r resume joint :=
  ⟨s.seam, s.joint_ge, s.joint_le⟩

/-- Keys before the buckets of the new offset are starts by the old one. -/
theorem old_of_lt (s : Smooth c r resume joint) {k : Int} (hk : IsKey c.clock r k)
    (h : k < resume) : c.Old r k := by
  rcases s.seam.isKey_cases hk with ⟨-, hold⟩ | ⟨-, rfl⟩ | ⟨hle, -⟩
  · exact hold
  · exact s.seam.joint_old
  · omega

/-- Keys from there on are starts by the new offset. -/
theorem new_of_le (s : Smooth c r resume joint) {k : Int} (hk : IsKey c.clock r k)
    (h : resume ≤ k) : c.New r k := by
  have hinstant := s.seam.instant_le
  rcases s.seam.isKey_cases hk with ⟨hlt, -⟩ | ⟨hresume, rfl⟩ | ⟨-, hnew⟩
  · omega
  · have hle := s.joint_le hresume
    rw [show k = resume by omega]
    exact s.seam.resume_new
  · exact hnew

/-- **One and a half buckets after a key lies the bucket of the next key.** -/
theorem isFirstKey_step (s : Smooth c r resume joint) {k : Int} (hk : IsKey c.clock r k) :
    IsFirstKey c.clock r (k + 1) (bucketKey c.clock r (k + r.size + r.size / 2)) := by
  have hpos := r.size_pos
  have hhalf := r.half_add_half
  have hinstant := s.seam.instant_le
  suffices h : k < bucketKey c.clock r (k + r.size + r.size / 2) ∧
      ∀ x, IsKey c.clock r x → k < x → bucketKey c.clock r (k + r.size + r.size / 2) ≤ x from
    ⟨⟨h.1, _, rfl⟩, fun x hx => h.2 x hx.2 hx.1⟩
  by_cases hm : k + r.size + r.size / 2 < c.instant
  · -- The hop ends before the change, among the buckets of the old offset.
    obtain ⟨hold, hle, hlt⟩ := s.seam.before _ hm
    refine ⟨by omega, ?_⟩
    intro x hx hkx
    by_contra hxlt
    have hxold := s.old_of_lt hx (by omega)
    have hfirst := (s.old_of_lt hk (by omega)).step hxold hkx
    have hsecond := hxold.step hold (by omega)
    omega
  · by_cases hr : k + r.size + r.size / 2 < resume
    · -- It ends in the bucket under way.
      rw [s.seam.during _ (by omega) hr]
      have hreach := s.reach (by omega)
      have hjoint := s.joint_lt (by omega)
      refine ⟨by omega, ?_⟩
      intro x hx hkx
      by_contra hxlt
      have hle := s.joint_le (by omega)
      have hxold := s.old_of_lt hx (by omega)
      have hfirst := (s.old_of_lt hk (by omega)).step hxold hkx
      have hsecond := hxold.step s.seam.joint_old (by omega)
      omega
    · -- It ends among the buckets of the new offset.
      obtain ⟨hnew, hrle, hle, hlt⟩ := s.seam.after (k + r.size + r.size / 2) (by omega)
      have hapart := s.apart k hk
      refine ⟨by omega, ?_⟩
      intro x hx hkx
      by_contra hxlt
      by_cases hxr : x < resume
      · have hxapart := s.apart x hx hxr
        have hfirst := (s.old_of_lt hk (by omega)).step (s.old_of_lt hx hxr) hkx
        omega
      · have hxnew := s.new_of_le hx (by omega)
        have hsecond := hxnew.step hnew (by omega)
        by_cases hkr : k < resume
        · omega
        · have hfirst := (s.new_of_le hk (by omega)).step hxnew hkx
          omega

/-- **Every hop leads to the next key.** -/
theorem isFirstKey_hop (s : Smooth c r resume joint) {k : Int} (hk : IsKey c.clock r k) :
    IsFirstKey c.clock r (k + 1) (nextBucketKey c.clock r k) := by
  have hstep := s.isFirstKey_step hk
  have hlt := hstep.1.1
  rw [nextBucketKey, if_neg (by omega)]
  exact hstep

/-- **A range is entered at its first key.** -/
theorem isFirstKey_enter (s : Smooth c r resume joint) (t : Int) :
    IsFirstKey c.clock r t (firstKey c.clock r t) := by
  -- A key from `t` on does not lie before the bucket of `t`.
  have hge : ∀ x, IsKey c.clock r x → t ≤ x → bucketKey c.clock r t ≤ x := by
    intro x hx htx
    have hmono := s.orderly.bucketKey_mono htx
    rwa [s.orderly.bucketKey_self hx] at hmono
  unfold firstKey
  split
  · rename_i hlt
    obtain ⟨⟨hgt, hkey⟩, hleast⟩ := s.isFirstKey_hop ⟨t, rfl⟩
    refine ⟨⟨?_, hkey⟩, ?_⟩
    · -- A key before `t` is not after the key of the bucket of `t`.
      by_contra hn
      have hmono := s.orderly.bucketKey_mono (by omega :
        nextBucketKey c.clock r (bucketKey c.clock r t) ≤ t)
      rw [s.orderly.bucketKey_self hkey] at hmono
      omega
    · rintro x ⟨htx, hx⟩
      exact hleast ⟨by omega, hx⟩
  · rename_i hle
    refine ⟨⟨by omega, t, rfl⟩, ?_⟩
    rintro x ⟨htx, hx⟩
    exact hge x hx htx

end Smooth
end Seam

/-! ## §5. Changes that fit. -/

theorem new_instant_add_wait (c : Change) (r : Resolution) : c.New r (c.instant + c.wait r) := by
  unfold New wait
  cases r <;> simp only [Resolution.size, Resolution.seconds] <;> omega

theorem old_joint (c : Change) (r : Resolution) : c.Old r (c.joint r) := by
  have hnew := new_instant_add_wait c r
  unfold New at hnew
  unfold Old
  rw [show c.joint r + c.before = c.instant + c.wait r + c.after - r.size by
    simp only [joint, shift]; omega, Int.sub_emod_right]
  exact hnew

/-- The start by the new offset of the bucket in which an instant lies. -/
theorem new_start (c : Change) (r : Resolution) (t : Int) :
    c.New r (t - (t + c.after) % r.size) ∧ t - (t + c.after) % r.size ≤ t ∧
      t < t - (t + c.after) % r.size + r.size := by
  have hnonneg := Int.emod_nonneg (t + c.after) (Int.ne_of_gt r.size_pos)
  have hlt := Int.emod_lt_of_pos (t + c.after) r.size_pos
  exact ⟨emod_size_sub r t c.after, by omega, by omega⟩

/-- The seam of a change after which no day starts twice. -/
theorem seam_of_wait (hday : r = .day → 0 ≤ c.wait r + c.shift) :
    c.Seam r (c.instant + c.wait r) (c.joint r) where
  instant_le := by
    have hwait : 0 ≤ c.wait r := wait_nonneg
    omega
  joint_old := old_joint c r
  resume_new := new_instant_add_wait c r
  before _ ht := seam_before ht
  during t ht hr := by
    obtain ⟨hnew, hle, -⟩ := new_start c r t
    have hwait : c.wait r < r.size := wait_lt
    have hstep := hnew.step (new_instant_add_wait c r) (by omega)
    have hstart : t - (t + c.after) % r.size < c.instant := by omega
    rw [bucketKey_of_straddle ht (Or.inl hstart), (start_eq_of_straddle ht hstart).2, joint]
  after t ht := by
    obtain ⟨hnew, hle, hlt⟩ := new_start c r t
    have hwait : 0 ≤ c.wait r := wait_nonneg
    have hresume : c.instant + c.wait r ≤ t - (t + c.after) % r.size := by
      by_contra hn
      have hstep := hnew.step (new_instant_add_wait c r) (by omega)
      omega
    rw [bucketKey_of_le (by omega) fun hr => by have hnonneg := hday hr; omega]
    exact ⟨hnew, hresume, hle, hlt⟩

/-- The seam of a change that is itself the second start of a day. -/
theorem seam_of_second_start (hwait : c.wait .day = 0) (hneg : c.shift < 0)
    (hge : -secondsPerDay ≤ c.shift) :
    c.Seam .day (c.instant + secondsPerDay) (c.instant + c.shift) where
  instant_le := by
    simp only [secondsPerDay]
    omega
  joint_old := by
    have hnew := new_instant_add_wait c .day
    unfold New at hnew
    unfold Old
    rw [hwait, Int.add_zero] at hnew
    rw [show c.instant + c.shift + c.before = c.instant + c.after by simp only [shift]; omega]
    exact hnew
  resume_new := by
    have hnew := new_instant_add_wait c .day
    unfold New at hnew ⊢
    rw [hwait, Int.add_zero] at hnew
    rw [show c.instant + secondsPerDay + c.after = c.instant + c.after + Resolution.day.size by
      simp only [secondsPerDay, Resolution.size, Resolution.seconds]; omega, Int.add_emod_right]
    exact hnew
  before _ ht := seam_before ht
  during t ht hr := by
    have hday : Resolution.day.size = secondsPerDay := rfl
    obtain ⟨hnew, hle, hlt⟩ := new_start c .day t
    have hinstant := new_instant_add_wait c .day
    rw [hwait, Int.add_zero] at hinstant
    have hstart : t - (t + c.after) % Resolution.day.size = c.instant := by
      rcases Int.lt_trichotomy (t - (t + c.after) % Resolution.day.size) c.instant with h | h | h
      · have hstep := hnew.step hinstant h
        omega
      · exact h
      · have hstep := hinstant.step hnew h
        omega
    rw [bucketKey_of_straddle ht (Or.inr ⟨rfl, by omega⟩), hstart]
  after t ht := by
    have hday : Resolution.day.size = secondsPerDay := rfl
    obtain ⟨hnew, hle, hlt⟩ := new_start c .day t
    have hinstant := new_instant_add_wait c .day
    rw [hwait, Int.add_zero] at hinstant
    have hresume : c.instant + secondsPerDay ≤ t - (t + c.after) % Resolution.day.size := by
      have hpos := Resolution.day.size_pos
      have hstep := hinstant.step hnew (by omega)
      omega
    rw [bucketKey_of_le (by omega) fun _ => by omega]
    exact ⟨hnew, hresume, hle, hlt⟩

/-- Where the new offset starts a bucket at the change, the last bucket before it is long enough. -/
theorem apart_of_wait_eq_zero (hwait : c.wait r = 0) (hshift : 2 * (c.shift % r.size) < r.size)
    {k : Int} (hold : c.Old r k) (hlt : k < c.instant) : k + r.size / 2 < c.instant := by
  unfold Old at hold
  unfold wait at hwait
  simp only [shift] at hshift
  cases r <;> simp only [Resolution.size, Resolution.seconds] at * <;> omega

/-- The seam of a change is smooth if the bucket under way is neither too long nor too short. -/
theorem smooth_of_wait (hday : r = .day → 0 ≤ c.wait r + c.shift)
    (hzero : c.wait r = 0 → 2 * (c.shift % r.size) < r.size)
    (hwait : c.wait r ≠ 0 → (c.shift = r.size ∧ 2 * c.wait r < r.size) ∨
      (-c.wait r ≤ c.shift ∧ -r.size ≤ 2 * c.shift ∧ 2 * c.shift < r.size)) :
    Seam.Smooth c r (c.instant + c.wait r) (c.joint r) := by
  have hhalf := r.half_add_half
  have hpos := r.size_pos
  have hnonneg : 0 ≤ c.wait r := wait_nonneg
  have hlt : c.wait r < r.size := wait_lt
  have hjoint : c.joint r = c.instant + c.wait r - r.size + c.shift := rfl
  have hseam := seam_of_wait hday
  refine ⟨hseam, ?_, ?_, ?_, ?_, ?_⟩
  · intro h
    have hcases := hwait (by omega)
    omega
  · intro h
    have hcases := hwait (by omega)
    omega
  · intro h
    have hcases := hwait (by omega)
    omega
  · intro h
    have hcases := hwait (by omega)
    omega
  · intro k hk hkr
    rcases hseam.isKey_cases hk with ⟨hinstant, hold⟩ | ⟨hresume, rfl⟩ | ⟨hle, -⟩
    · -- A start by the old offset is before the joint key, that key itself, or a bucket after it.
      by_cases hw : c.wait r = 0
      · have hapart := apart_of_wait_eq_zero hw (hzero hw) hold hinstant
        omega
      · have hcases := hwait hw
        by_cases hkj : k < c.joint r
        · have hstep := hold.step (old_joint c r) hkj
          omega
        · by_cases heq : k = c.joint r
          · omega
          · have hstep := (old_joint c r).step hold (by omega)
            omega
    · have hcases := hwait (by omega)
      omega
    · omega

/-- **A change that fits has a smooth seam.** -/
theorem smooth_of_fits (hsmall : c.Small) (hfits : c.Fits r) :
    ∃ resume joint, Seam.Smooth c r resume joint := by
  obtain ⟨hback, hforth⟩ := hsmall
  have hnonneg : 0 ≤ c.wait r := wait_nonneg
  by_cases hr : r = .day
  · have hfits' : 0 ≤ c.shift ∨ c.wait r = 0 ∨ -c.shift ≤ c.wait r := by
      rwa [Fits, if_pos hr] at hfits
    subst hr
    have hday : Resolution.day.size = 86400 := rfl
    by_cases hsum : 0 ≤ c.wait .day + c.shift
    · refine ⟨_, _, smooth_of_wait (fun _ => hsum) ?_ ?_⟩
      · intro hzero
        rw [hday]
        omega
      · intro hwait
        exact Or.inr ⟨by omega, by omega, by omega⟩
    · -- The day starts again at the change, and the second start is a day of its own no more.
      have hzero : c.wait .day = 0 := by omega
      have hspd : secondsPerDay = 86400 := rfl
      have hseam := seam_of_second_start hzero (by omega) (by omega)
      refine ⟨_, _, hseam, ?_, ?_, ?_, ?_, ?_⟩
      · intro _
        omega
      · intro _
        omega
      · intro _
        omega
      · intro _
        omega
      · intro k hk hkr
        rcases hseam.isKey_cases hk with ⟨hinstant, -⟩ | ⟨-, rfl⟩ | ⟨hle, -⟩
        · omega
        · omega
        · omega
  · have hfits' : if c.wait r = 0 then 2 * (c.shift % r.size) < r.size
        else (c.shift = r.size ∧ 2 * c.wait r < r.size) ∨
          (-c.wait r ≤ c.shift ∧ -r.size ≤ 2 * c.shift ∧ 2 * c.shift < r.size) := by
      rwa [Fits, if_neg hr] at hfits
    refine ⟨_, _, smooth_of_wait (fun h => absurd h hr) ?_ ?_⟩
    · intro hzero
      rwa [if_pos hzero] at hfits'
    · intro hwait
      rwa [if_neg hwait] at hfits'

/-! ## §6. Changes that do not fit. -/

/-- Around the change every step of a walk leads to the first key that it can lead to. -/
def Steps (c : Change) (r : Resolution) : Prop :=
  ∀ t, c.instant - 172800 ≤ t → t ≤ c.instant + 86400 →
    IsFirstKey c.clock r t (firstKey c.clock r t) ∧
      (IsKey c.clock r t → IsFirstKey c.clock r (t + 1) (nextBucketKey c.clock r t))

/-- A hop goes by a plain bucket only if one and a half lead nowhere. -/
theorem nextBucketKey_cases (clock : Clock) (r : Resolution) (k : Int) :
    (bucketKey clock r (k + r.size + r.size / 2) ≤ k ∧ nextBucketKey clock r k = k + r.size) ∨
      (k < bucketKey clock r (k + r.size + r.size / 2) ∧
        nextBucketKey clock r k = bucketKey clock r (k + r.size + r.size / 2)) := by
  unfold nextBucketKey
  by_cases h : bucketKey clock r (k + r.size + r.size / 2) ≤ k
  · exact Or.inl ⟨h, if_pos h⟩
  · exact Or.inr ⟨by omega, if_neg h⟩

theorem isKey_of_old {k : Int} (hlt : k < c.instant) (hold : c.Old r k) : IsKey c.clock r k :=
  isKey_clock_iff.2 (Or.inl ⟨hlt, hold⟩)

theorem isKey_of_new (hr : r ≠ .day) {k : Int} (hle : c.instant ≤ k) (hnew : c.New r k) :
    IsKey c.clock r k :=
  isKey_clock_iff.2 (Or.inr (Or.inl ⟨hle, fun h => absurd h hr, hnew⟩))

theorem isKey_joint (hwait : c.wait r ≠ 0) : IsKey c.clock r (c.joint r) :=
  isKey_clock_iff.2 (Or.inr (Or.inr ⟨hwait, rfl⟩))

/-- The last start by the old offset before a change that starts a bucket. -/
theorem old_of_wait_eq_zero (hwait : c.wait r = 0) :
    c.Old r (c.instant - r.size + c.shift % r.size) := by
  unfold Old
  unfold wait at hwait
  simp only [shift]
  cases r <;> simp only [Resolution.size, Resolution.seconds] at * <;> omega

/-- A change that starts a bucket must not cut the last one before it to less than half. -/
theorem fits_of_wait_eq_zero (hr : r ≠ .day) (hsteps : c.Steps r) (hwait : c.wait r = 0) :
    2 * (c.shift % r.size) < r.size := by
  have hhalf := r.half_add_half
  have hle := r.size_le
  have hnonneg := Int.emod_nonneg c.shift (Int.ne_of_gt r.size_pos)
  have hmod := Int.emod_lt_of_pos c.shift r.size_pos
  by_contra hlarge
  have hseam := seam_of_wait (c := c) fun h => absurd h hr
  rw [hwait, Int.add_zero] at hseam
  have hold := old_of_wait_eq_zero hwait
  have hkey := isKey_of_old (by omega) hold
  -- The hop from the last old key leads past the change, which is a key.
  have hinstant := isKey_of_new hr (Int.le_refl _) hseam.resume_new
  have hskip := ((hsteps _ (by omega) (by omega)).2 hkey).2 ⟨by omega, hinstant⟩
  obtain ⟨-, -, -, hlt⟩ := hseam.after
    (c.instant - r.size + c.shift % r.size + r.size + r.size / 2) (by omega)
  rcases nextBucketKey_cases c.clock r (c.instant - r.size + c.shift % r.size) with ⟨h, -⟩ | ⟨-, h⟩
  · omega
  · omega

/-- Whole buckets away from the key of the bucket under way there are starts by the old offset. -/
theorem old_joint_add (c : Change) (r : Resolution) (n : Int) :
    c.Old r (c.joint r + r.size * n) := by
  have hold := old_joint c r
  unfold Old at hold ⊢
  rw [show c.joint r + r.size * n + c.before = c.joint r + c.before + r.size * n by omega,
    Int.add_mul_emod_self_left]
  exact hold

/-- A bucket under way that started before the change is left by a hop into the first bucket of the
new offset. -/
theorem fits_of_joint_lt (hr : r ≠ .day) (hsmall : c.Small) (hsteps : c.Steps r)
    (hwait : c.wait r ≠ 0) (hin : c.joint r < c.instant) :
    -c.wait r ≤ c.shift ∧ -r.size ≤ 2 * c.shift ∧ 2 * c.shift < r.size := by
  obtain ⟨hback, hforth⟩ := hsmall
  have hhalf := r.half_add_half
  have hpos := r.size_pos
  have hday := r.size_le
  have hnonneg : 0 ≤ c.wait r := wait_nonneg
  have hjoint : c.joint r = c.instant + c.wait r - r.size + c.shift := rfl
  have hseam := seam_of_wait (c := c) fun h => absurd h hr
  have hresume := isKey_of_new hr (by omega) hseam.resume_new
  obtain ⟨⟨-, hnext⟩, hnextLeast⟩ :=
    (hsteps (c.joint r) (by omega) (by omega)).2 (isKey_joint hwait)
  have hstep := nextBucketKey_cases c.clock r (c.joint r)
  -- The range that starts at the change is entered by that hop.
  obtain ⟨⟨hge, -⟩, hleast⟩ := (hsteps c.instant (by omega) (by omega)).1
  have henter : firstKey c.clock r c.instant = nextBucketKey c.clock r (c.joint r) := by
    unfold firstKey
    rw [hseam.during c.instant (Int.le_refl _) (by omega), if_pos hin]
  rw [henter] at hge hleast
  have hfirst := hleast ⟨by omega, hresume⟩
  -- Otherwise one more start by the old offset would stand between the two.
  have horder : c.instant ≤ c.joint r + r.size := by
    by_contra hn
    have hold := old_joint_add c r 1
    rw [Int.mul_one] at hold
    have hle := hnextLeast ⟨by omega, isKey_of_old (by omega) hold⟩
    omega
  have hreach : c.instant + c.wait r ≤ c.joint r + r.size + r.size / 2 := by
    by_contra hn
    by_cases hm : c.joint r + r.size + r.size / 2 < c.instant
    · obtain ⟨-, hle, -⟩ := hseam.before _ hm
      omega
    · -- The hop would stay in the bucket under way, and a plain step leads to no key.
      rw [hseam.during (c.joint r + r.size + r.size / 2) (by omega) (by omega)] at hstep
      have hplain : nextBucketKey c.clock r (c.joint r) = c.joint r + r.size := by omega
      rw [hplain] at hnext
      rcases hseam.isKey_cases hnext with ⟨hlt', -⟩ | ⟨-, heq⟩ | ⟨hle, -⟩
      · omega
      · omega
      · omega
  obtain ⟨-, hle, -, hlt⟩ := hseam.after _ hreach
  exact ⟨by omega, by omega, by omega⟩

/-- A shift by the size of a bucket must leave room for the hop from the last key but one. -/
theorem fits_of_shift_eq_size (hr : r ≠ .day) (hsteps : c.Steps r) (hshift : c.shift = r.size) :
    2 * c.wait r < r.size := by
  have hhalf := r.half_add_half
  have hday : 2 * r.size ≤ 172800 := by
    have hle := r.size_le
    omega
  have hlt : c.wait r < r.size := wait_lt
  have hnonneg : 0 ≤ c.wait r := wait_nonneg
  have hjoint : c.joint r = c.instant + c.wait r - r.size + c.shift := rfl
  have hseam := seam_of_wait (c := c) fun h => absurd h hr
  by_contra hlong
  -- The last two keys before the bucket under way stand in line with its own.
  have hlast := old_joint_add c r (-1)
  have hlastButOne := old_joint_add c r (-2)
  rw [show c.joint r + r.size * -1 = c.instant + c.wait r - r.size by omega] at hlast
  rw [show c.joint r + r.size * -2 = c.instant + c.wait r - r.size - r.size by omega]
    at hlastButOne
  have hskip := ((hsteps (c.instant + c.wait r - r.size - r.size) (by omega) (by omega)).2
    (isKey_of_old (by omega) hlastButOne)).2 ⟨by omega, isKey_of_old (by omega) hlast⟩
  -- It leads into the bucket under way, whose key is the first of the new offset.
  have hlands := hseam.during (c.instant + c.wait r - r.size - r.size + r.size + r.size / 2)
    (by omega) (by omega)
  have hcases := nextBucketKey_cases c.clock r (c.instant + c.wait r - r.size - r.size)
  rw [hlands] at hcases
  omega

/-- The bucket under way must start in order, and the hop from it must lead out of it. -/
theorem fits_of_wait_ne_zero (hr : r ≠ .day) (hsmall : c.Small) (hsteps : c.Steps r)
    (hwait : c.wait r ≠ 0) : (c.shift = r.size ∧ 2 * c.wait r < r.size) ∨
      (-c.wait r ≤ c.shift ∧ -r.size ≤ 2 * c.shift ∧ 2 * c.shift < r.size) := by
  have hhalf := r.half_add_half
  have hpos := r.size_pos
  have hday := r.size_le
  have hnonneg : 0 ≤ c.wait r := wait_nonneg
  have hlt : c.wait r < r.size := wait_lt
  have hjoint : c.joint r = c.instant + c.wait r - r.size + c.shift := rfl
  by_cases hin : c.joint r < c.instant
  · exact Or.inr (fits_of_joint_lt hr hsmall hsteps hwait hin)
  · by_cases heq : c.shift = r.size
    · exact Or.inl ⟨heq, fits_of_shift_eq_size hr hsteps heq⟩
    · -- The bucket under way starts after the change, and no later than the next one.
      obtain ⟨hback, hforth⟩ := hsmall
      have hseam := seam_of_wait (c := c) fun h => absurd h hr
      have hresume := isKey_of_new hr (by omega) hseam.resume_new
      have hfirst := (hsteps c.instant (by omega) (by omega)).1.2 ⟨by omega, hresume⟩
      have henter : firstKey c.clock r c.instant = c.joint r := by
        unfold firstKey
        rw [hseam.during c.instant (Int.le_refl _) (by omega), if_neg hin]
      rw [henter] at hfirst
      have hle := ((hsteps (c.joint r) (by omega) (by omega)).2 (isKey_joint hwait)).2
        ⟨by omega, hresume⟩
      obtain ⟨-, hle', -, hlt'⟩ := hseam.after (c.joint r + r.size + r.size / 2) (by omega)
      have hstep := nextBucketKey_cases c.clock r (c.joint r)
      exact Or.inr ⟨by omega, by omega, by omega⟩

/-- A day must not be over before its second start. -/
theorem fits_of_day (hsmall : c.Small) (hsteps : c.Steps .day) :
    0 ≤ c.shift ∨ c.wait .day = 0 ∨ -c.shift ≤ c.wait .day := by
  obtain ⟨hback, -⟩ := hsmall
  have hnonneg : 0 ≤ c.wait .day := wait_nonneg
  have hday : Resolution.day.size = 86400 := rfl
  by_contra hn
  have hneg : c.shift < 0 := by omega
  have hwait : c.wait .day ≠ 0 := by omega
  have hshort : c.wait .day < -c.shift := by omega
  have hjoint : c.joint .day = c.instant + c.wait .day - Resolution.day.size + c.shift := rfl
  have hresume := new_instant_add_wait c .day
  have hlt : c.wait .day < Resolution.day.size := wait_lt
  -- The range that starts at the change begins in the bucket under way.
  have hunder : bucketKey c.clock .day c.instant = c.joint .day := bucketKey_instant hwait
  have henter : firstKey c.clock .day c.instant = nextBucketKey c.clock .day (c.joint .day) := by
    unfold firstKey
    rw [hunder, if_pos (by omega)]
  -- The hop from there leads to the day that starts again, which starts before the change.
  obtain ⟨hnew', hle', hlt'⟩ := new_start c .day
    (c.joint .day + Resolution.day.size + Resolution.day.size / 2)
  have hagain : c.joint .day + Resolution.day.size + Resolution.day.size / 2 -
      (c.joint .day + Resolution.day.size + Resolution.day.size / 2 + c.after) %
        Resolution.day.size = c.instant + c.wait .day := by
    generalize hu : c.joint .day + Resolution.day.size + Resolution.day.size / 2 -
      (c.joint .day + Resolution.day.size + Resolution.day.size / 2 + c.after) %
        Resolution.day.size = u at *
    rcases Int.lt_trichotomy u (c.instant + c.wait .day) with h | h | h
    · have hstep := hnew'.step hresume h
      omega
    · exact h
    · have hstep := hresume.step hnew' h
      omega
  have hhop : bucketKey c.clock .day
      (c.joint .day + Resolution.day.size + Resolution.day.size / 2) =
        c.instant + c.wait .day + c.shift := by
    rw [bucketKey_of_straddle (by omega) (Or.inr ⟨rfl, by omega⟩), hagain]
  have hstep := nextBucketKey_cases c.clock .day (c.joint .day)
  rw [hhop] at hstep
  have hge := (hsteps c.instant (by omega) (by omega)).1.1.1
  rw [henter] at hge
  omega

/-- **The walk over a change meets every key if and only if the change fits.** -/
theorem steps_iff_fits (hsmall : c.Small) : c.Steps r ↔ c.Fits r := by
  constructor
  · intro hsteps
    unfold Fits
    by_cases hr : r = .day
    · subst hr
      rw [if_pos rfl]
      exact fits_of_day hsmall hsteps
    · rw [if_neg hr]
      by_cases hwait : c.wait r = 0
      · rw [if_pos hwait]
        exact fits_of_wait_eq_zero hr hsteps hwait
      · rw [if_neg hwait]
        exact fits_of_wait_ne_zero hr hsmall hsteps hwait
  · intro hfits
    obtain ⟨resume, joint, hsmooth⟩ := smooth_of_fits hsmall hfits
    intro t _ _
    exact ⟨hsmooth.isFirstKey_enter t, fun hkey => hsmooth.isFirstKey_hop hkey⟩

end Change
end MetricQuery
