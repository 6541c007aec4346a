/-
  MetricQuery.Proofs.Time.Aligned
  ───────────────────────────────
  **ZONES WHOSE CHANGES START BUCKETS.**

  If every change of a zone starts a bucket, by the old offset and by the new
  one, then its offsets differ by whole buckets only, and no bucket has two of
  them.  A bucket then starts where its own offset puts the start, every bucket
  is as long as its size, and a grid is the list of all starts.  Hours that are
  repeated when clocks go back are told apart by the offset of the instant.

    • `Zone.Aligned`           — every change starts a bucket,
    • `offsetFrom_start`       — an offset is in effect from the start of the bucket on,
    • `Aligned.bucketKey_eq`   — the start of a bucket, in closed form,
    • `Aligned.nextBucketKey_eq` — the next one is a size away,
    • `buckets_of_aligned`     — buckets and grids of an aligned zone,
    • `tehran_last_hour`       — the end of the calendar, where a step leaves it.
-/
import MetricQuery.Proofs.Time.Fit
import MetricQuery.Proofs.Time.Table
import MetricQuery.Time.Catalog

namespace MetricQuery

/-- Offsets that differ by whole buckets cut an instant down alike. -/
theorem emod_size_of_dvd {r : Resolution} {o p : Int} (h : r.size ∣ o - p) (t : Int) :
    (t + o) % r.size = (t + p) % r.size := by
  refine Int.emod_eq_emod_iff_emod_sub_eq_zero.2 ?_
  rw [show t + o - (t + p) = o - p by omega]
  exact Int.emod_eq_zero_of_dvd h

/-- The calendar begins and ends with whole buckets of universal time. -/
theorem not_inCalendar_sub_emod (r : Resolution) {t : Int} (h : ¬ inCalendar t = true) :
    ¬ inCalendar (t - t % r.size) = true := by
  rw [inCalendar_iff] at h ⊢
  simp only [calendarFirst, calendarLast] at h ⊢
  cases r <;> simp only [Resolution.size, Resolution.seconds] <;> omega

namespace Zone

variable {z : Zone} {r : Resolution}

/-! ## §1. Offsets that differ by whole buckets. -/

/-- Every change of the zone starts a bucket, by the old offset and by the new one. -/
def Aligned (z : Zone) (r : Resolution) : Prop :=
  ∀ c ∈ z.changes, (c.instant + c.before) % r.size = 0 ∧ (c.instant + c.after) % r.size = 0

instance (z : Zone) (r : Resolution) : Decidable (z.Aligned r) := by
  unfold Aligned
  infer_instance

/-- The offsets of an aligned table differ by whole buckets. -/
theorem dvd_offsetFrom_sub {o : Int} {transitions : List Transition}
    (h : ∀ c ∈ changesFrom o transitions,
      (c.instant + c.before) % r.size = 0 ∧ (c.instant + c.after) % r.size = 0) (t : Int) :
    r.size ∣ offsetFrom o transitions t - o := by
  induction transitions generalizing o with
  | nil =>
      unfold offsetFrom
      rw [Int.sub_self]
      exact Int.dvd_zero _
  | cons tr rest ih =>
      unfold changesFrom at h
      obtain ⟨hbefore, hafter⟩ := h _ List.mem_cons_self
      have hchange : r.size ∣ tr.offset - o := by
        have hsub := Int.dvd_sub (Int.dvd_of_emod_eq_zero hafter)
          (Int.dvd_of_emod_eq_zero hbefore)
        rwa [show tr.instant + tr.offset - (tr.instant + o) = tr.offset - o by omega] at hsub
      unfold offsetFrom
      split
      · rw [Int.sub_self]
        exact Int.dvd_zero _
      · have hlater := ih fun c hc => h c (List.mem_cons_of_mem _ hc)
        have hsum := Int.dvd_add hlater hchange
        rwa [show offsetFrom tr.offset rest t - tr.offset + (tr.offset - o) =
          offsetFrom tr.offset rest t - o by omega] at hsum

/-- **An offset is in effect from the start of the bucket on.** -/
theorem offsetFrom_start {o : Int} {transitions : List Transition}
    (h : ∀ c ∈ changesFrom o transitions,
      (c.instant + c.before) % r.size = 0 ∧ (c.instant + c.after) % r.size = 0) (t : Int) :
    offsetFrom o transitions (t - (t + offsetFrom o transitions t) % r.size) =
      offsetFrom o transitions t := by
  induction transitions generalizing o with
  | nil => rfl
  | cons tr rest ih =>
      unfold changesFrom at h
      have hrest := fun c hc => h c (List.mem_cons_of_mem _ hc)
      obtain ⟨-, hafter⟩ := h _ List.mem_cons_self
      by_cases ht : t < tr.instant
      · have hoffset : offsetFrom o (tr :: rest) t = o := if_pos ht
        have hnonneg := Int.emod_nonneg (t + o) (Int.ne_of_gt r.size_pos)
        rw [hoffset]
        exact if_pos (by omega)
      · have hoffset : offsetFrom o (tr :: rest) t = offsetFrom tr.offset rest t := if_neg ht
        rw [hoffset]
        -- The change starts a bucket by the offset in effect, so the bucket starts no earlier.
        obtain ⟨hstart, -, hlt⟩ : (t - (t + offsetFrom tr.offset rest t) % r.size +
              offsetFrom tr.offset rest t) % r.size = 0 ∧ _ ∧
            t < t - (t + offsetFrom tr.offset rest t) % r.size + r.size :=
          Change.new_start ⟨0, 0, offsetFrom tr.offset rest t⟩ r t
        have hinstant : (tr.instant + offsetFrom tr.offset rest t) % r.size = 0 := by
          rw [emod_size_of_dvd (dvd_offsetFrom_sub hrest t)]
          exact hafter
        have hle : tr.instant ≤ t - (t + offsetFrom tr.offset rest t) % r.size := by
          by_contra hn
          have hstep := Change.add_size_le hstart hinstant (by omega)
          omega
        rw [show offsetFrom o (tr :: rest) (t - (t + offsetFrom tr.offset rest t) % r.size) =
          offsetFrom tr.offset rest (t - (t + offsetFrom tr.offset rest t) % r.size) from
            if_neg (by omega)]
        exact ih hrest

/-! ## §2. One bucket. -/

/-- In an aligned zone the offsets of two instants of the calendar differ by whole buckets, and if
the first offset is a number of whole buckets, so are all, the one outside of the calendar
included. -/
theorem Aligned.dvd_offsetAt_sub (h : z.Aligned r) {t u : Int}
    (hin : z.initial % r.size = 0 ∨ inCalendar t = true ∧ inCalendar u = true) :
    r.size ∣ z.offsetAt t - z.offsetAt u := by
  have htable := dvd_offsetFrom_sub h
  rcases hin with hwhole | ⟨ht, hu⟩
  · have hall : ∀ v, r.size ∣ z.offsetAt v := by
      intro v
      unfold offsetAt
      split
      · have hsum := Int.dvd_add (htable v) (Int.dvd_of_emod_eq_zero hwhole)
        rwa [Int.sub_add_cancel] at hsum
      · exact Int.dvd_zero _
    exact Int.dvd_sub (hall t) (hall u)
  · unfold offsetAt
    rw [if_pos ht, if_pos hu]
    have hsub := Int.dvd_sub (htable t) (htable u)
    rwa [show offsetFrom z.initial z.transitions t - z.initial -
      (offsetFrom z.initial z.transitions u - z.initial) =
        offsetFrom z.initial z.transitions t - offsetFrom z.initial z.transitions u by omega]
      at hsub

/-- Outside of the calendar there are no local times, and buckets are those of universal time. -/
theorem bucketKey_of_not_inCalendar {t : Int} (h : ¬ inCalendar t = true) :
    bucketKey z.clock r t = t - t % r.size := by
  have hoffset : z.clock.offsetAt t = 0 := if_neg h
  have hstart := not_inCalendar_sub_emod r h
  have hlocal : z.localOffset (t - t % r.size) (if r = .day then none else some 0) = 0 := by
    unfold localOffset
    rw [if_neg hstart]
    split
    · exact if_neg hstart
    · rfl
  rw [bucketKey_eq_sub hoffset, Int.add_zero]
  show t - t % r.size - z.localOffset (t - t % r.size) (if r = .day then none else some 0) = _
  rw [hlocal, Int.sub_zero]

/-- The offset of an instant shows the local time at which its bucket starts. -/
theorem Aligned.mem_candidates_start (h : z.Aligned r) {t : Int} (ht : inCalendar t = true) :
    z.offsetAt t ∈ z.candidates (t + z.offsetAt t - (t + z.offsetAt t) % r.size) := by
  have htable : z.offsetAt t = offsetFrom z.initial z.transitions t := if_pos ht
  rw [mem_candidates_iff, htable]
  rw [show t + offsetFrom z.initial z.transitions t -
      (t + offsetFrom z.initial z.transitions t) % r.size - offsetFrom z.initial z.transitions t =
    t - (t + offsetFrom z.initial z.transitions t) % r.size by omega]
  exact offsetFrom_start h t

/-- **In an aligned zone a bucket starts where the offset of the instant puts its start.** -/
theorem Aligned.bucketKey_eq (h : z.Aligned r) (hr : r ≠ .day) (t : Int) :
    bucketKey z.clock r t = t - (t + z.offsetAt t) % r.size := by
  by_cases ht : inCalendar t = true
  · -- The start is shown by the offset of the instant, which is preferred.
    have hlocal := localOffset_of_mem_candidates (h.mem_candidates_start ht)
    rw [bucketKey_eq_sub (show z.clock.offsetAt t = z.offsetAt t from rfl), if_neg hr]
    show _ - z.localOffset (t + z.offsetAt t - (t + z.offsetAt t) % r.size)
      (some (z.offsetAt t)) = _
    rw [hlocal]
    omega
  · rw [bucketKey_of_not_inCalendar ht, show z.offsetAt t = 0 from if_neg ht, Int.add_zero]

/-- The buckets around the instant lie in the calendar.  Those of a zone whose offsets are whole
buckets are the buckets of universal time, with which the calendar begins and ends. -/
def Covered (z : Zone) (r : Resolution) (t : Int) : Prop :=
  inCalendar t = true ∧
    (z.initial % r.size = 0 ∨ calendarFirst + r.size ≤ t ∧ t + 2 * r.size ≤ calendarLast)

/-- A bucket starts at the local time that the instant shows. -/
def Starts (z : Zone) (r : Resolution) (x : Int) : Prop :=
  (x + z.offsetAt x) % r.size = 0

/-- The bucket of a covered instant starts in the calendar. -/
theorem Aligned.inCalendar_bucketKey (h : z.Aligned r) (hr : r ≠ .day) {t : Int}
    (ht : z.Covered r t) : inCalendar (bucketKey z.clock r t) = true := by
  obtain ⟨hcalendar, hroom⟩ := ht
  have hmod := Int.emod_nonneg (t + z.offsetAt t) (Int.ne_of_gt r.size_pos)
  have hlt := Int.emod_lt_of_pos (t + z.offsetAt t) r.size_pos
  rw [h.bucketKey_eq hr, inCalendar_iff]
  rw [inCalendar_iff] at hcalendar
  rcases hroom with hwhole | hroom
  · -- The start is one of universal time, and the calendar begins with such a start.
    have hzero := h.dvd_offsetAt_sub (t := t) (u := calendarFirst - 1) (Or.inl hwhole)
    rw [show z.offsetAt (calendarFirst - 1) = 0 from rfl] at hzero
    rw [emod_size_of_dvd hzero, Int.add_zero]
    simp only [calendarFirst, calendarLast] at hcalendar ⊢
    cases r <;> simp only [Resolution.size, Resolution.seconds] <;> omega
  · omega

/-- **The next bucket starts a size away.** -/
theorem Aligned.nextBucketKey_eq (h : z.Aligned r) (hr : r ≠ .day) {t k : Int}
    (ht : z.Covered r t) (hk : k ≤ t) (hcalendar : inCalendar k = true)
    (hstart : z.Starts r k) :
    nextBucketKey z.clock r k = k + r.size := by
  have hhalf := r.half_add_half
  have hpos := r.size_pos
  have hin : z.initial % r.size = 0 ∨
      inCalendar (k + r.size + r.size / 2) = true ∧ inCalendar k = true := by
    obtain ⟨-, hwhole | hroom⟩ := ht
    · exact Or.inl hwhole
    · refine Or.inr ⟨?_, hcalendar⟩
      rw [inCalendar_iff] at hcalendar ⊢
      omega
  have hmid : (k + r.size + r.size / 2 + z.offsetAt (k + r.size + r.size / 2)) % r.size =
      r.size / 2 := by
    rw [emod_size_of_dvd (h.dvd_offsetAt_sub hin)]
    rw [show k + r.size + r.size / 2 + z.offsetAt k = k + z.offsetAt k + r.size / 2 + r.size by
      omega, Int.add_emod_right, Int.add_emod, show (k + z.offsetAt k) % r.size = 0 from hstart,
      Int.zero_add, Int.emod_emod]
    exact Int.emod_eq_of_lt (by omega) (by omega)
  have hkey : bucketKey z.clock r (k + r.size + r.size / 2) = k + r.size := by
    rw [h.bucketKey_eq hr, hmid]
    omega
  unfold nextBucketKey
  rw [hkey]
  exact if_neg (by omega)

/-! ## §3. Grids. -/

/-- From a start on, the next start is a size away, as far as the range goes. -/
theorem Aligned.meets_add_size (h : z.Aligned r) {stop since k : Int} (hstop : stop ≤ calendarLast)
    (hcalendar : inCalendar k = true) (hstart : z.Starts r k) (hsince : k < since)
    (hle : since ≤ k + r.size) : Meets (z.Starts r) stop since (k + r.size) := by
  have hpos := r.size_pos
  have hk := inCalendar_iff.1 hcalendar
  have hsame : ∀ x, k ≤ x → x < stop →
      (x + z.offsetAt x) % r.size = (x + z.offsetAt k) % r.size := by
    intro x hkx hx
    refine emod_size_of_dvd (h.dvd_offsetAt_sub (Or.inr ⟨?_, hcalendar⟩)) x
    rw [inCalendar_iff]
    omega
  constructor
  · intro hlt
    refine ⟨hle, ?_⟩
    show (k + r.size + z.offsetAt (k + r.size)) % r.size = 0
    rw [hsame _ (by omega) hlt, show k + r.size + z.offsetAt k = k + z.offsetAt k + r.size by omega,
      Int.add_emod_right]
    exact hstart
  · intro x hx hlt hxstart
    unfold Starts at hxstart
    rw [hsame x (by omega) hlt] at hxstart
    exact Change.add_size_le hstart hxstart (by omega)

/-- **The grid of an aligned zone lists every start.** -/
theorem Aligned.mem_bucketKeys_iff (h : z.Aligned r) (hr : r ≠ .day) {start stop : Int}
    (hstart : z.Covered r start) (hstop : z.Covered r stop) (k : Int) :
    k ∈ bucketKeys z.clock r start stop ↔ start ≤ k ∧ k < stop ∧ z.Starts r k := by
  have hpos := r.size_pos
  have hfirst := inCalendar_iff.1 hstart.1
  have hlast := inCalendar_iff.1 hstop.1
  have hnonneg := Int.emod_nonneg (start + z.offsetAt start) (Int.ne_of_gt hpos)
  have hlt := Int.emod_lt_of_pos (start + z.offsetAt start) hpos
  have hkey := h.bucketKey_eq hr start
  have hcalendar := h.inCalendar_bucketKey hr hstart
  have hkeyStart : z.Starts r (bucketKey z.clock r start) := by
    unfold Starts
    rw [emod_size_of_dvd (h.dvd_offsetAt_sub (Or.inr ⟨hcalendar, hstart.1⟩)), hkey]
    exact Change.emod_size_sub r start _
  rw [bucketKeys_eq]
  refine mem_bucketKeysFrom_iff_of_meets ?_ ?_ k
  · intro x hx hxstop hxstart
    have hxcalendar : inCalendar x = true := by
      rw [inCalendar_iff]
      omega
    rw [h.nextBucketKey_eq hr hstop (by omega) hxcalendar hxstart]
    exact h.meets_add_size hlast.2 hxcalendar hxstart (by omega) (by omega)
  · unfold firstKey
    split
    · rw [h.nextBucketKey_eq hr hstart (by omega) hcalendar hkeyStart]
      exact h.meets_add_size hlast.2 hcalendar hkeyStart (by omega) (by omega)
    · have heq : bucketKey z.clock r start = start := by omega
      rw [heq] at hkeyStart ⊢
      exact ⟨fun _ => ⟨Int.le_refl _, hkeyStart⟩, fun x hx _ _ => hx⟩

/-- **Buckets smaller than a day in a zone whose changes start buckets.**  A bucket starts where the
offset of the instant puts its start.  Where the buckets around an instant lie in the calendar, the
start has the offset of the instant, and the next bucket starts a size later; a grid lists every
start in its range. -/
theorem buckets_of_aligned (h : z.Aligned r) (hr : r ≠ .day) :
    (∀ t, bucketKey z.clock r t = t - (t + z.offsetAt t) % r.size) ∧
    (∀ t, z.Covered r t → z.offsetAt (bucketKey z.clock r t) = z.offsetAt t ∧
      nextBucketKey z.clock r (bucketKey z.clock r t) = bucketKey z.clock r t + r.size) ∧
    ∀ start stop, z.Covered r start → z.Covered r stop →
      (bucketKeys z.clock r start stop).Pairwise (· < ·) ∧
        ∀ k, k ∈ bucketKeys z.clock r start stop ↔
          start ≤ k ∧ k < stop ∧ (k + z.offsetAt k) % r.size = 0 := by
  refine ⟨h.bucketKey_eq hr, ?_, ?_⟩
  · intro t ht
    have hkey := h.bucketKey_eq hr t
    have hcalendar := h.inCalendar_bucketKey hr ht
    have hnonneg := Int.emod_nonneg (t + z.offsetAt t) (Int.ne_of_gt r.size_pos)
    have hoffset : z.offsetAt (bucketKey z.clock r t) = z.offsetAt t := by
      have htable : z.offsetAt t = offsetFrom z.initial z.transitions t := if_pos ht.1
      rw [show z.offsetAt (bucketKey z.clock r t) =
        offsetFrom z.initial z.transitions (bucketKey z.clock r t) from if_pos hcalendar, hkey,
        htable]
      exact offsetFrom_start h t
    refine ⟨hoffset, h.nextBucketKey_eq hr ht (by omega) hcalendar ?_⟩
    unfold Starts
    rw [hoffset, hkey]
    exact Change.emod_size_sub r t _
  · intro start stop hstart hstop
    exact ⟨pairwise_bucketKeys _ _ _ _, h.mem_bucketKeys_iff hr hstart hstop⟩

/-- When clocks went back in New York, the hour from one to two o'clock came twice, and each time
it is a bucket. -/
theorem buckets_of_newYork : newYork.Aligned .hour ∧ newYork.Covered .hour 1446355800 ∧
    bucketKey newYork.clock .hour 1446355800 = 1446354000 ∧
    nextBucketKey newYork.clock .hour 1446354000 = 1446357600 := by
  have haligned : newYork.Aligned .hour := by decide +kernel
  have hcovered : newYork.Covered .hour 1446355800 := ⟨by decide, Or.inl (by decide)⟩
  obtain ⟨hkey, hnext, -⟩ := buckets_of_aligned haligned (by decide)
  have hstart : bucketKey newYork.clock .hour 1446355800 = 1446354000 := by
    rw [hkey]
    decide +kernel
  refine ⟨haligned, hcovered, hstart, ?_⟩
  have hsize := (hnext _ hcovered).2
  rw [hstart] at hsize
  exact hsize

/-- **At the end of the calendar a step can leave it.**  Hours start at half past in Tehran, and the
step from the last hour but one ends outside of the calendar, where universal time is used: it
leads past the start of the last hour, and the grid lacks that hour. -/
theorem tehran_last_hour :
    tehran.Aligned .hour ∧
    (tehran.transitions.Pairwise fun a b => a.instant + 172800 ≤ b.instant) ∧
    inCalendar 8210266871400 = true ∧ inCalendar 8210266876799 = true ∧
    bucketKey tehran.clock .hour 8210266871400 = 8210266871400 ∧
    nextBucketKey tehran.clock .hour 8210266871400 ≠ 8210266871400 + 3600 ∧
    (8210266875000 + tehran.offsetAt 8210266875000) % 3600 = 0 ∧
    bucketKeys tehran.clock .hour 8210266871400 8210266876799 = [8210266871400] := by
  refine ⟨?_, ?_, ?_, ?_, ?_, ?_, ?_, ?_⟩ <;> decide +kernel

end Zone
end MetricQuery
