/-
  MetricQuery.Proofs.Series.TwoSteps
  ──────────────────────────────────
  **A ROLLUP IN TWO STEPS.**

  Rolled up to small buckets first and then to large ones, the values of a large
  bucket are reduced small bucket by small bucket.  For sums and extremes of
  exact numbers this makes no difference, as long as the key of every small
  bucket lies in the large bucket of its points and none of their values is
  taken for missing in between.

    • `filter_flatMap_of_forall`  — parts that are kept or left out as a whole,
    • `Series.flatMap_keys_perm`  — a large bucket is made up of small ones,
    • `rollup_rollup_of_nested`   — two steps, on any clock whose buckets nest,
    • `rollup_rollup`             — and in a zone whose changes start small buckets,
    • `rollup_rollup_first_day`   — the beginning of the calendar, where they do not.
-/
import MetricQuery.Proofs.Series.Groups
import MetricQuery.Proofs.Time.Nesting

namespace MetricQuery

/-! ## §1. Small buckets in large ones. -/

/-- Where a filter keeps or drops each part as a whole, it filters the parts. -/
theorem filter_flatMap_of_forall {α κ : Type} {part : κ → List α} {p : α → Bool} {q : κ → Bool}
    (h : ∀ k, ∀ x ∈ part k, p x = q k) (keys : List κ) :
    (keys.flatMap part).filter p = (keys.filter q).flatMap part := by
  induction keys with
  | nil => rfl
  | cons k keys ih =>
      rw [List.flatMap_cons, List.filter_append, ih, List.filter_cons]
      by_cases hk : q k = true
      · rw [if_pos hk, List.flatMap_cons,
          List.filter_eq_self.2 fun x hx => (h k x hx).trans hk]
      · rw [if_neg hk, List.filter_eq_nil_iff.2 fun x hx hp => hk ((h k x hx).symm.trans hp),
          List.nil_append]

namespace Series

variable {clock : Clock} {f c : Resolution} {agg : Aggregation}

/-- **A large bucket is made up of the small ones** whose keys lie in it. -/
theorem flatMap_keys_perm {α : Type} [Quantity α] {pad : Padding α} {s : Series α}
    (agg : Aggregation) (hnested : ∀ t v, pad.keep s[t]? = some v →
      bucketKey clock c (bucketKey clock f t) = bucketKey clock c t) (k : Int) :
    (((s.rollup clock f agg pad).keys.filter fun j => bucketKey clock c j == k).flatMap
      (s.bucketPoints clock f pad)).Perm (s.bucketPoints clock c pad k) := by
  have hwhole : ∀ j, ∀ p ∈ s.bucketPoints clock f pad j,
      (bucketKey clock c p.1 == k) = (bucketKey clock c j == k) := by
    intro j p hp
    obtain ⟨hkeep, hj⟩ := mem_bucketPoints.1 hp
    rw [← hj, hnested p.1 p.2 hkeep]
  rw [← filter_flatMap_of_forall hwhole]
  exact (flatMap_bucketPoints_perm clock f agg pad s).filter _

/-- The numbers in a bucket, in ascending order of time. -/
def bucketNumbers (clock : Clock) (r : Resolution) (pad : Padding Reading) (s : Series Reading)
    (k : Int) : List ℚ :=
  Reading.numbers ((s.bucketPoints clock r pad k).map Prod.snd)

variable {pad : Padding Reading} {s : Series Reading}

/-- The value of a bucket that holds nothing undefined. -/
theorem Defined.getElem?_rollup (h : s.Defined pad) (clock : Clock) (r : Resolution)
    (agg : Aggregation) (k : Int) :
    (s.rollup clock r agg pad)[k]? =
      (agg.reduce (s.bucketNumbers clock r pad k)).map Reading.number := by
  rw [getElem?_rollup_bucketPoints]
  exact Reading.reduce_numbers agg (h.not_mem_bucketPoints clock r k)

/-- Where no value of a bucket is taken for missing, a rollup presents them all. -/
theorem Defined.keep_rollup {r : Resolution} (h : s.Defined pad)
    (hpresent : ∀ (k : Int) v, (s.rollup clock r agg pad)[k]? = some v → pad.marks v = false)
    (k : Int) :
    pad.keep (s.rollup clock r agg pad)[k]? =
      (agg.reduce (s.bucketNumbers clock r pad k)).map Reading.number := by
  rw [← h.getElem?_rollup clock r agg k]
  cases hv : (s.rollup clock r agg pad)[k]? with
  | none => rfl
  | some v => exact Padding.keep_eq_some_iff.2 ⟨rfl, hpresent k v hv⟩

/-- Buckets that have the points of a list between them have its numbers. -/
theorem bucketNumbers_perm {r : Resolution} {keys : List Int} {points : List (Int × Reading)}
    (h : (keys.flatMap (s.bucketPoints clock r pad)).Perm points) :
    (keys.flatMap (s.bucketNumbers clock r pad)).Perm (Reading.numbers (points.map Prod.snd)) := by
  have hvalues := h.map Prod.snd
  rw [List.map_flatMap] at hvalues
  have hnumbers := Reading.numbers_perm hvalues
  rw [Reading.numbers_flatMap] at hnumbers
  exact hnumbers

/-- The numbers in a large bucket are those in the small ones. -/
theorem flatMap_bucketNumbers_perm (agg : Aggregation)
    (hnested : ∀ t v, pad.keep s[t]? = some v →
      bucketKey clock c (bucketKey clock f t) = bucketKey clock c t) (k : Int) :
    (((s.rollup clock f agg pad).keys.filter fun j => bucketKey clock c j == k).flatMap
      (s.bucketNumbers clock f pad)).Perm (s.bucketNumbers clock c pad k) :=
  bucketNumbers_perm (flatMap_keys_perm agg hnested k)

/-! ## §2. Two steps. -/

/-- **Two steps are one** for sums and extremes, on any clock whose buckets nest. -/
theorem rollup_rollup_of_nested (hagg : agg ≠ .avg) (hdefined : s.Defined pad)
    (hnested : ∀ t v, pad.keep s[t]? = some v →
      bucketKey clock c (bucketKey clock f t) = bucketKey clock c t)
    (hpresent : ∀ (k : Int) v, (s.rollup clock f agg pad)[k]? = some v → pad.marks v = false) :
    (s.rollup clock f agg pad).rollup clock c agg pad = s.rollup clock c agg pad := by
  apply Std.ExtTreeMap.ext_getElem?
  intro k
  have hkeep := hdefined.keep_rollup hpresent
  calc ((s.rollup clock f agg pad).rollup clock c agg pad)[k]?
      = agg.reduce ((s.rollup clock f agg pad).keys.filterMap fun j =>
          if bucketKey clock c j = k then pad.keep (s.rollup clock f agg pad)[j]? else none) :=
        getElem?_rollup clock c agg (pairwise_keys _) (fun _ _ => mem_keys_of_keep) k
    _ = agg.reduce ((((s.rollup clock f agg pad).keys.filter fun j =>
          bucketKey clock c j == k).filterMap fun j =>
            agg.reduce (s.bucketNumbers clock f pad j)).map Reading.number) := by
        rw [List.map_filterMap, List.filterMap_filter]
        simp only [hkeep, beq_iff_eq]
    _ = (agg.reduce (((s.rollup clock f agg pad).keys.filter fun j =>
          bucketKey clock c j == k).flatMap (s.bucketNumbers clock f pad))).map
            Reading.number := by
        rw [Reading.reduce_map_number, reduce_flatMap hagg]
    _ = (agg.reduce (s.bucketNumbers clock c pad k)).map Reading.number := by
        rw [reduce_perm agg (flatMap_bucketNumbers_perm agg hnested k)]
    _ = (s.rollup clock c agg pad)[k]? := (hdefined.getElem?_rollup clock c agg k).symm

end Series

/-! ## §3. Zones whose changes start small buckets. -/

/-- **A rollup in two steps.**  If every change of the zone starts a small bucket, by the old offset
and by the new one, the key of a small bucket lies in the large bucket of its instants, unless it
lies before the calendar and they do not.  So sums and extremes of exact numbers are the same in two
steps as in one, if no value in between is taken for missing. -/
theorem rollup_rollup (z : Zone) (f c : Resolution) (haligned : z.Aligned f)
    (hle : f.seconds ≤ c.seconds) :
    (∀ t, (calendarFirst ≤ t → calendarFirst ≤ bucketKey z.clock f t) →
      bucketKey z.clock c (bucketKey z.clock f t) = bucketKey z.clock c t) ∧
    ∀ (agg : Aggregation) (pad : Padding Reading) (s : Series Reading), agg ≠ .avg →
      s.Defined pad →
      (∀ t v, s[t]? = some v → pad.marks v = false → calendarFirst ≤ t →
        calendarFirst ≤ bucketKey z.clock f t) →
      (∀ (k : Int) v, (s.rollup z.clock f agg pad)[k]? = some v → pad.marks v = false) →
      (s.rollup z.clock f agg pad).rollup z.clock c agg pad = s.rollup z.clock c agg pad := by
  constructor
  · intro t hfirst
    exact haligned.bucketKey_bucketKey hle hfirst
  · intro agg pad s hagg hdefined hfirst hpresent
    refine Series.rollup_rollup_of_nested hagg hdefined ?_ hpresent
    intro t v hkeep
    obtain ⟨hv, hmarks⟩ := Padding.keep_eq_some_iff.1 hkeep
    exact haligned.bucketKey_bucketKey hle (hfirst t v hv hmarks)

/-- Samples of the night in which clocks went back in New York in 2015. -/
def longNight : Series Reading :=
  Series.ofPoints [(1446352200, .number 4), (1446355800, .number 2), (1446358200, .number 0),
    (1446359400, .number 3)]

/-- The hour from one to two o'clock came twice that night.  The sum of the day is the sum of its
hours, both of these included and a missing sample left out. -/
theorem rollup_rollup_newYork :
    Zone.newYork.Aligned .hour ∧ Resolution.hour.seconds ≤ Resolution.day.seconds ∧
      longNight.Defined ⟨.number 0⟩ ∧
      (longNight.rollup Zone.newYork.clock .hour .sum ⟨.number 0⟩).points =
        [(1446350400, .number 4), (1446354000, .number 2), (1446357600, .number 3)] ∧
      (longNight.rollup Zone.newYork.clock .hour .sum ⟨.number 0⟩).rollup Zone.newYork.clock .day
        .sum ⟨.number 0⟩ = longNight.rollup Zone.newYork.clock .day .sum ⟨.number 0⟩ := by
  have haligned : Zone.newYork.Aligned .hour := by decide +kernel
  have hsamples : ∀ p ∈ longNight.points,
      p.2 ≠ .undefined ∧ calendarFirst ≤ bucketKey Zone.newYork.clock .hour p.1 := by
    decide +kernel
  have hdefined : longNight.Defined ⟨.number 0⟩ := by
    intro t hkeep
    exact (hsamples _ (Series.mem_points.2 (Padding.keep_eq_some_iff.1 hkeep).1)).1 rfl
  have hhours : (longNight.rollup Zone.newYork.clock .hour .sum ⟨.number 0⟩).points =
      [(1446350400, .number 4), (1446354000, .number 2), (1446357600, .number 3)] := by
    decide +kernel
  have hpresent : ∀ p ∈ (longNight.rollup Zone.newYork.clock .hour .sum ⟨.number 0⟩).points,
      Padding.marks ⟨.number 0⟩ p.2 = false := by
    rw [hhours]
    decide +kernel
  obtain ⟨-, hsteps⟩ := rollup_rollup Zone.newYork .hour .day haligned (by decide)
  refine ⟨haligned, by decide, hdefined, hhours, hsteps .sum _ _ (by decide) hdefined ?_ ?_⟩
  · intro t v hv _ _
    exact (hsamples (t, v) (Series.mem_points.2 hv)).2
  · intro k v hv
    exact hpresent (k, v) (Series.mem_points.2 hv)

/-- **At the beginning of the calendar a key can lie before it.**  The first day of a zone ahead of
universal time starts before the calendar, where universal time is used, and so its key is the key
of another day.  A sum that was moved there moves on in the second step. -/
theorem rollup_rollup_first_day :
    (Zone.fixed "Etc/GMT-5" 18000).Aligned .day ∧
      ((Zone.fixed "Etc/GMT-5" 18000).transitions.Pairwise
        fun a b => a.instant + 172800 ≤ b.instant) ∧
      inCalendar calendarFirst = true ∧
      bucketKey (Zone.fixed "Etc/GMT-5" 18000).clock .day
        (bucketKey (Zone.fixed "Etc/GMT-5" 18000).clock .day calendarFirst) ≠
          bucketKey (Zone.fixed "Etc/GMT-5" 18000).clock .day calendarFirst ∧
      ∃ s : Series Reading, s = Series.ofPoints [(calendarFirst, .number 1)] ∧
        (s.rollup (Zone.fixed "Etc/GMT-5" 18000).clock .day .sum ⟨.number 0⟩).points =
          [(-8334601246800, .number 1)] ∧
        ((s.rollup (Zone.fixed "Etc/GMT-5" 18000).clock .day .sum ⟨.number 0⟩).rollup
          (Zone.fixed "Etc/GMT-5" 18000).clock .day .sum ⟨.number 0⟩).points =
            [(-8334601315200, .number 1)] := by
  refine ⟨by decide, by decide, by decide, by decide +kernel, _, rfl, ?_, ?_⟩ <;> decide +kernel

end MetricQuery
