/-
  MetricQuery.Proofs.Time.Change
  ──────────────────────────────
  **A CLOCK THAT CHANGES ONCE.**

  Before the change buckets start at the multiples of their size by the old
  offset, after it by the new one.  The bucket that is under way when the clock
  changes keeps the local time at which it started, and its key moves with the
  shift of the clock.

    • `Change.clock`        — the clock that knows of one change only,
    • `bucketKey_cases`     — its buckets, in closed form,
    • `isKey_clock_iff`     — its keys.
-/
import MetricQuery.Proofs.Time.Agreement

namespace MetricQuery

/-- A change of the offset. -/
structure Change where
  instant : Int
  before : Int
  after : Int
  deriving DecidableEq, Repr

namespace Change

/-! ## §1. One change. -/

/-- How far the clock is put forward. -/
def shift (c : Change) : Int :=
  c.after - c.before

/-- The clock that changes at this instant and at no other.  A local time that is shown twice takes
the offset before the change unless the other is preferred; one that is never shown takes the
offset before the change. -/
def clock (c : Change) : Clock where
  offsetAt t := if t < c.instant then c.before else c.after
  localOffset x preferred :=
    if c.instant ≤ x - c.after ∧ (c.instant ≤ x - c.before ∨ preferred = some c.after) then c.after
    else c.before

/-- The clock is put forward or back by at most three hours, which is how far back the last local
time before a gap is looked for. -/
def Small (c : Change) : Prop :=
  -10800 ≤ c.shift ∧ c.shift ≤ 10800

instance (c : Change) : Decidable c.Small := by
  unfold Small
  infer_instance

/-- The offsets under which the clock shows a local time: the one before the change until then, the
one after it from then on. -/
def Shows (c : Change) (x p : Int) : Prop :=
  (x - c.before < c.instant ∧ p = c.before) ∨ (c.instant ≤ x - c.after ∧ p = c.after)

/-- How long after the change the next bucket starts by the new offset. -/
def wait (c : Change) (r : Resolution) : Int :=
  -(c.instant + c.after) % r.size

/-- The key of the bucket that is under way at the change. -/
def joint (c : Change) (r : Resolution) : Int :=
  c.instant + c.wait r - r.size + c.shift

variable {c : Change} {r : Resolution}

theorem offsetAt_clock_of_lt {t : Int} (h : t < c.instant) : c.clock.offsetAt t = c.before :=
  if_pos h

theorem offsetAt_clock_of_le {t : Int} (h : c.instant ≤ t) : c.clock.offsetAt t = c.after :=
  if_neg (by omega)

/-- Only two offsets are ever in effect. -/
theorem offsetAt_clock_cases (c : Change) (t : Int) :
    c.clock.offsetAt t = c.before ∨ c.clock.offsetAt t = c.after := by
  by_cases h : t < c.instant
  · exact Or.inl (offsetAt_clock_of_lt h)
  · exact Or.inr (offsetAt_clock_of_le (by omega))

theorem wait_nonneg : 0 ≤ c.wait r :=
  Int.emod_nonneg _ (Int.ne_of_gt r.size_pos)

theorem wait_lt : c.wait r < r.size :=
  Int.emod_lt_of_pos _ r.size_pos

theorem localOffset_of_before {x : Int} {preferred : Option Int} (h : x - c.before < c.instant)
    (hpref : preferred = some c.after → c.after = c.before) :
    c.clock.localOffset x preferred = c.before := by
  show (if _ then c.after else c.before) = c.before
  split
  · rename_i hafter
    rcases hafter.2 with hle | heq
    · omega
    · exact hpref heq
  · rfl

theorem localOffset_of_gap {x : Int} (preferred : Option Int) (h : x - c.after < c.instant) :
    c.clock.localOffset x preferred = c.before :=
  if_neg fun hafter => by omega

theorem localOffset_of_after {x : Int} {preferred : Option Int} (h : c.instant ≤ x - c.after)
    (hpref : c.instant ≤ x - c.before ∨ preferred = some c.after) :
    c.clock.localOffset x preferred = c.after :=
  if_pos ⟨h, hpref⟩

/-- Before the change the buckets are those of the old offset. -/
theorem bucketKey_of_lt {t : Int} (h : t < c.instant) :
    bucketKey c.clock r t = t - (t + c.before) % r.size := by
  have hoffset := offsetAt_clock_of_lt h
  have hmod := Int.emod_nonneg (t + c.before) (Int.ne_of_gt r.size_pos)
  have hlocal : c.clock.localOffset (t + c.before - (t + c.before) % r.size)
      (if r = .day then none else some c.before) = c.before := by
    -- The preferred offset is the old one, so the new one is not preferred to it.
    refine localOffset_of_before (by omega) ?_
    intro hpref
    split at hpref
    · cases hpref
    · exact (Option.some.inj hpref).symm
  rw [bucketKey_eq_sub hoffset, hlocal]
  omega

/-- After the change a bucket that starts by then is one of the new offset.  A day has to start
after the change by the old offset, too. -/
theorem bucketKey_of_le {t : Int} (h : c.instant ≤ t - (t + c.after) % r.size)
    (hday : r = .day → c.instant ≤ t - (t + c.after) % r.size + c.shift) :
    bucketKey c.clock r t = t - (t + c.after) % r.size := by
  have hmod := Int.emod_nonneg (t + c.after) (Int.ne_of_gt r.size_pos)
  have hoffset : c.clock.offsetAt t = c.after := offsetAt_clock_of_le (by omega)
  have hlocal : c.clock.localOffset (t + c.after - (t + c.after) % r.size)
      (if r = .day then none else some c.after) = c.after := by
    refine localOffset_of_after (by omega) ?_
    by_cases hr : r = .day
    · have hle := hday hr
      simp only [shift] at hle
      exact Or.inl (by omega)
    · exact Or.inr (if_neg hr)
  rw [bucketKey_eq_sub hoffset, hlocal]
  omega

/-- A bucket that was under way at the change, and a day that starts twice, keep the start that the
old offset gives them. -/
theorem bucketKey_of_straddle {t : Int} (ht : c.instant ≤ t)
    (h : t - (t + c.after) % r.size < c.instant ∨
      (r = .day ∧ t - (t + c.after) % r.size + c.shift < c.instant)) :
    bucketKey c.clock r t = t - (t + c.after) % r.size + c.shift := by
  have hoffset : c.clock.offsetAt t = c.after := offsetAt_clock_of_le (by omega)
  have hlocal : c.clock.localOffset (t + c.after - (t + c.after) % r.size)
      (if r = .day then none else some c.after) = c.before := by
    rcases h with hlt | ⟨hr, hlt⟩
    · exact localOffset_of_gap _ (by omega)
    · simp only [shift] at hlt
      refine localOffset_of_before (by omega) ?_
      rw [if_pos hr]
      intro hpref
      cases hpref
  rw [bucketKey_eq_sub hoffset, hlocal]
  simp only [shift]
  omega

/-- The three ways in which a bucket gets its key. -/
theorem bucketKey_cases (c : Change) (r : Resolution) (t : Int) :
    (t < c.instant ∧ bucketKey c.clock r t = t - (t + c.before) % r.size) ∨
    (c.instant ≤ t - (t + c.after) % r.size ∧
      (r = .day → c.instant ≤ t - (t + c.after) % r.size + c.shift) ∧
      bucketKey c.clock r t = t - (t + c.after) % r.size) ∨
    (c.instant ≤ t ∧ (t - (t + c.after) % r.size < c.instant ∨
        (r = .day ∧ t - (t + c.after) % r.size + c.shift < c.instant)) ∧
      bucketKey c.clock r t = t - (t + c.after) % r.size + c.shift) := by
  by_cases ht : t < c.instant
  · exact Or.inl ⟨ht, bucketKey_of_lt ht⟩
  · by_cases h : t - (t + c.after) % r.size < c.instant ∨
        (r = .day ∧ t - (t + c.after) % r.size + c.shift < c.instant)
    · exact Or.inr (Or.inr ⟨by omega, h, bucketKey_of_straddle (by omega) h⟩)
    · have hle : c.instant ≤ t - (t + c.after) % r.size := by omega
      have hday : r = .day → c.instant ≤ t - (t + c.after) % r.size + c.shift := by
        intro hr
        have hn : ¬ t - (t + c.after) % r.size + c.shift < c.instant :=
          fun hlt => h (Or.inr ⟨hr, hlt⟩)
        omega
      exact Or.inr (Or.inl ⟨hle, hday, bucketKey_of_le hle hday⟩)

/-- An instant cut down to a bucket starts a bucket. -/
theorem emod_size_sub (r : Resolution) (t o : Int) : (t - (t + o) % r.size + o) % r.size = 0 := by
  have h : t - (t + o) % r.size + o = r.size * ((t + o) / r.size) := by
    have hdiv := Int.mul_ediv_add_emod (t + o) r.size
    omega
  rw [h, Int.mul_emod_right]

/-- The bucket of the new offset in which the change lies starts so long before it. -/
theorem start_eq_of_straddle {t : Int} (ht : c.instant ≤ t)
    (h : t - (t + c.after) % r.size < c.instant) :
    c.wait r ≠ 0 ∧ t - (t + c.after) % r.size = c.instant + c.wait r - r.size := by
  rw [wait]
  cases r <;> simp only [Resolution.size, Resolution.seconds] at * <;> omega

/-- A start by the old offset before the change is its own key. -/
theorem bucketKey_of_starts {k : Int} (hlt : k < c.instant) (hmod : (k + c.before) % r.size = 0) :
    bucketKey c.clock r k = k := by
  rw [bucketKey_of_lt hlt, hmod, Int.sub_zero]

/-- The change itself lies in the bucket that is under way. -/
theorem bucketKey_instant (hwait : c.wait r ≠ 0) :
    bucketKey c.clock r c.instant = c.joint r := by
  have hlt : c.instant - (c.instant + c.after) % r.size < c.instant := by
    have hpos : (c.instant + c.after) % r.size ≠ 0 := by
      intro hzero
      refine hwait ?_
      rw [wait, Int.neg_emod, if_pos (Int.dvd_of_emod_eq_zero hzero)]
    have hnonneg := Int.emod_nonneg (c.instant + c.after) (Int.ne_of_gt r.size_pos)
    omega
  rw [bucketKey_of_straddle (Int.le_refl _) (Or.inl hlt),
    (start_eq_of_straddle (Int.le_refl _) hlt).2, joint]

/-- **The keys of a clock that changes once:** those of the old offset before the change, those of
the new one after it, and the key of the bucket between them. -/
theorem isKey_clock_iff {k : Int} :
    IsKey c.clock r k ↔
      (k < c.instant ∧ (k + c.before) % r.size = 0) ∨
      (c.instant ≤ k ∧ (r = .day → c.instant ≤ k + c.shift) ∧ (k + c.after) % r.size = 0) ∨
      (c.wait r ≠ 0 ∧ k = c.joint r) := by
  constructor
  · rintro ⟨t, rfl⟩
    rcases bucketKey_cases c r t with ⟨hlt, heq⟩ | ⟨hle, hday, heq⟩ | ⟨hle, hlt, heq⟩
    · have hmod := Int.emod_nonneg (t + c.before) (Int.ne_of_gt r.size_pos)
      rw [heq]
      exact Or.inl ⟨by omega, emod_size_sub r t c.before⟩
    · rw [heq]
      exact Or.inr (Or.inl ⟨hle, hday, emod_size_sub r t c.after⟩)
    · rw [heq]
      by_cases hu : t - (t + c.after) % r.size < c.instant
      · obtain ⟨hwait, hstart⟩ := start_eq_of_straddle hle hu
        exact Or.inr (Or.inr ⟨hwait, by rw [hstart, joint]⟩)
      · -- The day that starts twice starts before the change, as a day of the old offset.
        refine Or.inl ⟨by omega, ?_⟩
        have hmod := emod_size_sub r t c.after
        rw [← hmod]
        simp only [shift]
        congr 1
        omega
  · rintro (⟨hlt, hmod⟩ | ⟨hle, hday, hmod⟩ | ⟨hwait, rfl⟩)
    · exact ⟨k, bucketKey_of_starts hlt hmod⟩
    · refine ⟨k, ?_⟩
      rw [bucketKey_of_le, hmod, Int.sub_zero]
      · rwa [hmod, Int.sub_zero]
      · rwa [hmod, Int.sub_zero]
    · exact ⟨c.instant, bucketKey_instant hwait⟩

end Change
end MetricQuery
