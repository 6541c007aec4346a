/-
  MetricQuery.Proofs.Series.Totals
  ────────────────────────────────
  **ROLLING UP AND PADDING KEEP THE TOTAL.**

  A rollup by sums adds every sample to one bucket, and so the sums of the
  buckets add up to what the samples do, however many of them share a bucket.
  Laying the sums on a grid loses none of them if the grid has the keys of all
  buckets.  In a zone that never changes, a grid that begins with a bucket has
  them, but for buckets at the end of the calendar that the walk along the grid
  cannot step to.

    • `total`               — values added up in their order,
    • `sum_filterMap_reduce` — sums of groups add up to the sum of all,
    • `total_rollup`        — a rollup by sums keeps the total, on any clock,
    • `total_rollup_onto`   — and so does a grid that has the keys of all buckets,
    • `total_conserved`     — rolling up and padding in a zone that never changes,
    • `last_sample_is_lost` — the end of the calendar.
-/
import MetricQuery.Proofs.Pipeline.Outcome
import MetricQuery.Proofs.Series.TwoSteps
import MetricQuery.Proofs.Time.Fixed

namespace MetricQuery

/-! ## §1. Adding up. -/

/-- The values added up, in their order. -/
def total {α : Type} [Quantity α] (values : List α) : α :=
  values.foldl (· + ·) Quantity.zero

/-- Exact numbers add up to their sum. -/
theorem total_map_number (xs : List ℚ) : total (xs.map Reading.number) = .number xs.sum := by
  have hzero : (Quantity.zero : Reading) = .number 0 :=
    congrArg Reading.number (Nat.cast_zero (R := ℚ))
  unfold total
  rw [hzero, List.foldl_map, List.sum_eq_foldl]
  exact List.foldl_hom Reading.number fun _ _ => rfl

/-- A group that is not empty is reduced to its sum. -/
theorem getD_reduce_sum (xs : List ℚ) : (Aggregation.sum.reduce xs).getD 0 = xs.sum := by
  cases h : Aggregation.sum.reduce xs with
  | none =>
      rw [Aggregation.reduce_eq_none_iff.1 h]
      rfl
  | some y => exact (reduce_eq_some_iff.1 h).2

/-- **The sums of groups add up to the sum of all.** -/
theorem sum_filterMap_reduce {κ : Type} (keys : List κ) (group : κ → List ℚ) :
    (keys.filterMap fun k => Aggregation.sum.reduce (group k)).sum = (keys.flatMap group).sum := by
  rw [← getD_reduce_sum, ← getD_reduce_sum, reduce_flatMap (by decide)]

/-! ## §2. Rollups by sums. -/

namespace Series

variable {clock : Clock} {r : Resolution} {pad : Padding Reading} {s : Series Reading}

/-- What a series presents are numbers, if nothing that it presents is undefined. -/
theorem Defined.map_numbers_present (h : s.Defined pad) :
    (Reading.numbers (s.present pad)).map Reading.number = s.present pad := by
  refine Reading.map_numbers ?_
  intro hundefined
  rw [present_eq_map] at hundefined
  obtain ⟨p, hp, heq⟩ := List.mem_map.1 hundefined
  exact h p.1 (heq ▸ mem_presentPoints.1 hp)

/-- **What a rollup presents** are the reductions of its buckets, if none of them is taken for
missing. -/
theorem Defined.present_rollup {agg : Aggregation} (h : s.Defined pad)
    (hpresent : ∀ (k : Int) v, (s.rollup clock r agg pad)[k]? = some v → pad.marks v = false) :
    (s.rollup clock r agg pad).present pad =
      ((s.rollup clock r agg pad).keys.filterMap fun k =>
        agg.reduce (s.bucketNumbers clock r pad k)).map Reading.number := by
  rw [present_eq_map, presentPoints_eq_filterMap (pairwise_keys _) fun _ _ => mem_keys_of_keep,
    List.map_filterMap, List.map_filterMap]
  refine List.filterMap_congr ?_
  intro k _
  rw [h.keep_rollup hpresent]
  simp [Function.comp_def]

/-- **A rollup by sums keeps the total,** whatever the clock says and however many samples share a
bucket. -/
theorem total_rollup (h : s.Defined pad)
    (hpresent : ∀ (k : Int) v, (s.rollup clock r .sum pad)[k]? = some v → pad.marks v = false) :
    total ((s.rollup clock r .sum pad).present pad) = total (s.present pad) := by
  have hperm : ((s.rollup clock r .sum pad).keys.flatMap (s.bucketNumbers clock r pad)).Perm
      (Reading.numbers (s.present pad)) := by
    rw [present_eq_map]
    exact bucketNumbers_perm (flatMap_bucketPoints_perm clock r .sum pad s)
  calc total ((s.rollup clock r .sum pad).present pad)
      = .number ((s.rollup clock r .sum pad).keys.filterMap fun k =>
          Aggregation.sum.reduce (s.bucketNumbers clock r pad k)).sum := by
        rw [h.present_rollup hpresent, total_map_number]
    _ = .number (Reading.numbers (s.present pad)).sum := by
        rw [sum_filterMap_reduce, hperm.sum_eq]
    _ = total (s.present pad) := by
        rw [← total_map_number, h.map_numbers_present]

/-- **On a grid that has the keys of all buckets** the sums still add up to the total. -/
theorem total_rollup_onto (h : s.Defined pad) {grid : List Int}
    (hgrid : grid.Pairwise (· < ·))
    (hcover : ∀ t v, pad.keep s[t]? = some v → bucketKey clock r t ∈ grid)
    (hpresent : ∀ (k : Int) v, (s.rollup clock r .sum pad)[k]? = some v → pad.marks v = false) :
    total (((s.rollup clock r .sum pad).onto grid pad).present pad) = total (s.present pad) := by
  have hkeys : ∀ k v, pad.keep (s.rollup clock r .sum pad)[k]? = some v → k ∈ grid := by
    intro k v hkeep
    obtain ⟨t, w, hw, hk⟩ := mem_rollup_iff.1 (Std.ExtTreeMap.mem_keys.1 (mem_keys_of_keep hkeep))
    rw [← hk]
    exact hcover t w hw
  rw [present_eq_map, presentPoints_onto hgrid hkeys, ← present_eq_map]
  exact total_rollup h hpresent

end Series

/-! ## §3. Zones that never change. -/

/-- The pipeline that rolls a series up by sums and lays the sums on the grid of a range. -/
def sumsOnGrid (clock : Clock) (r : Resolution) (start stop : Int) (pad : Padding Reading) :
    Pipeline Reading :=
  [.stage (.rollupTime clock r .sum pad), .stage (.pad clock r start stop pad)]

theorem outcome_sumsOnGrid (clock : Clock) (r : Resolution) (start stop : Int)
    (pad : Padding Reading) (s : Series Reading) :
    ((sumsOnGrid clock r start stop pad).run (.series s)).outcome =
      .ok (.series ((s.rollup clock r .sum pad).onto (bucketKeys clock r start stop) pad)) := by
  unfold sumsOnGrid Stage.rollupTime Stage.pad
  rw [outcome_stage_cons _ (outcome_ofSeries ..), outcome_stage_cons _ (outcome_ofSeries ..),
    outcome_runSteps_nil]

/-- **Rolling up by sums and padding conserves the total.**  In a zone that never changes, take a
range of the calendar that begins with a bucket; its end need not be the end of one.  Its grid has
the key of an instant of the range if and only if the walk along the grid can step to it.  If that
is so for every sample, and neither a sample nor a sum is taken for missing, a pipeline that rolls a
series up by sums and pads it yields a series whose present values add up to the values of the
samples. -/
theorem total_conserved (name : String) (offset : Int) (r : Resolution) (start stop : Int)
    (hnear : -secondsPerDay < offset ∧ offset < secondsPerDay) (hfirst : calendarFirst ≤ start)
    (hlast : stop ≤ calendarLast + 1)
    (hself : bucketKey (Zone.fixed name offset).clock r start = start) :
    (∀ t, start ≤ t → t < stop →
      (bucketKey (Zone.fixed name offset).clock r t ∈
          bucketKeys (Zone.fixed name offset).clock r start stop ↔
        (Zone.fixed name offset).Met r start t)) ∧
    ∀ (pad : Padding Reading) (s : Series Reading),
      (∀ t v, s[t]? = some v → start ≤ t ∧ t < stop ∧ (Zone.fixed name offset).Met r start t ∧
        v ≠ .undefined ∧ pad.marks v = false) →
      (∀ (k : Int) v, (s.rollup (Zone.fixed name offset).clock r .sum pad)[k]? = some v →
        pad.marks v = false) →
      ∃ u, ((sumsOnGrid (Zone.fixed name offset).clock r start stop pad).run
          (.series s)).outcome = .ok (.series u) ∧ total (u.present pad) = total s.values := by
  have hgrid : ∀ t, start ≤ t → t < stop →
      (bucketKey (Zone.fixed name offset).clock r t ∈
          bucketKeys (Zone.fixed name offset).clock r start stop ↔
        (Zone.fixed name offset).Met r start t) :=
    fun t hle hlt => Zone.mem_bucketKeys_fixed_iff hnear hfirst hself hle hlt hlast
  refine ⟨hgrid, ?_⟩
  intro pad s hsamples hpresent
  have hdefined : s.Defined pad := by
    intro t hkeep
    obtain ⟨-, -, -, hnumber, -⟩ := hsamples t _ (Padding.keep_eq_some_iff.1 hkeep).1
    exact hnumber rfl
  have hcover : ∀ t v, pad.keep s[t]? = some v →
      bucketKey (Zone.fixed name offset).clock r t ∈
        bucketKeys (Zone.fixed name offset).clock r start stop := by
    intro t v hkeep
    obtain ⟨hle, hlt, hmet, -⟩ := hsamples t v (Padding.keep_eq_some_iff.1 hkeep).1
    exact (hgrid t hle hlt).2 hmet
  have hvalues : s.present pad = s.values := by
    rw [Series.values_eq_map_points, Series.present_eq_map]
    congr 1
    refine List.filter_eq_self.2 ?_
    intro p hp
    obtain ⟨-, -, -, -, hmarks⟩ := hsamples p.1 p.2 (Series.mem_points.1 hp)
    rw [hmarks]
    rfl
  refine ⟨_, outcome_sumsOnGrid .., ?_⟩
  rw [Series.total_rollup_onto hdefined (pairwise_bucketKeys _ r start stop) hcover hpresent,
    hvalues]

/-- Four samples, two to an hour, before and after the beginning of universal time. -/
def halfHours : Series Reading :=
  Series.ofPoints [(-5400, .number 2), (-1801, .number (-5)), (1800, .number 4),
    (3999, .number (7 / 2))]

/-- Hours in a zone half an hour off those of universal time.  The range ends within the last of
them, and the one in between is empty. -/
theorem total_conserved_halfHours :
    ∃ u, ((sumsOnGrid (Zone.fixed "+05:30" 19800).clock .hour (-5400) 4000 ⟨.number 100⟩).run
        (.series halfHours)).outcome = .ok (.series u) ∧
      total (u.present ⟨.number 100⟩) = .number (9 / 2) := by
  have hsamples : ∀ p ∈ halfHours.points, -5400 ≤ p.1 ∧ p.1 < 4000 ∧
      (Zone.fixed "+05:30" 19800).Met .hour (-5400) p.1 ∧ p.2 ≠ .undefined ∧
        Padding.marks ⟨.number 100⟩ p.2 = false := by
    decide +kernel
  have hsums : ∀ p ∈ (halfHours.rollup (Zone.fixed "+05:30" 19800).clock .hour .sum
      ⟨.number 100⟩).points, Padding.marks ⟨.number 100⟩ p.2 = false := by
    decide +kernel
  obtain ⟨-, htotal⟩ := total_conserved "+05:30" 19800 .hour (-5400) 4000 (by decide) (by decide)
    (by decide) (by decide)
  obtain ⟨u, hrun, hu⟩ := htotal ⟨.number 100⟩ halfHours
    (fun t v hv => hsamples (t, v) (Series.mem_points.2 hv))
    (fun k v hv => hsums (k, v) (Series.mem_points.2 hv))
  exact ⟨u, hrun, hu.trans (by decide +kernel)⟩

/-- Samples at the last two local midnights of the calendar, fourteen hours ahead. -/
def lastMidnights : Series Reading :=
  Series.ofPoints [(8210266740000, .number 3), (8210266826400, .number 5)]

/-- **The last sample of the calendar is lost** fourteen hours ahead of universal time.  By local
time its day starts after the calendar, where universal time is used, and so the key of its bucket
is after the end of the range. -/
theorem last_sample_is_lost :
    (-secondsPerDay < 50400 ∧ 50400 < secondsPerDay) ∧ calendarFirst ≤ 8210266740000 ∧
      8210266826401 ≤ calendarLast ∧
      bucketKey (Zone.fixed "Etc/GMT-14" 50400).clock .day 8210266740000 = 8210266740000 ∧
      (∀ t v, lastMidnights[(t : Int)]? = some v → 8210266740000 ≤ t ∧ t < 8210266826401 ∧
        v ≠ .undefined ∧ Padding.marks ⟨.number 0⟩ v = false) ∧
      (∀ (k : Int) v, (lastMidnights.rollup (Zone.fixed "Etc/GMT-14" 50400).clock .day .sum
        ⟨.number 0⟩)[k]? = some v → Padding.marks ⟨.number 0⟩ v = false) ∧
      ∃ u, ((sumsOnGrid (Zone.fixed "Etc/GMT-14" 50400).clock .day 8210266740000 8210266826401
          ⟨.number 0⟩).run (.series lastMidnights)).outcome = .ok (.series u) ∧
        total (u.present ⟨.number 0⟩) = .number 3 ∧ total lastMidnights.values = .number 8 := by
  have hsamples : ∀ p ∈ lastMidnights.points, 8210266740000 ≤ p.1 ∧ p.1 < 8210266826401 ∧
      p.2 ≠ .undefined ∧ Padding.marks ⟨.number 0⟩ p.2 = false := by
    decide +kernel
  have hsums : ∀ p ∈ (lastMidnights.rollup (Zone.fixed "Etc/GMT-14" 50400).clock .day .sum
      ⟨.number 0⟩).points, Padding.marks ⟨.number 0⟩ p.2 = false := by
    decide +kernel
  refine ⟨by decide, by decide, by decide, by decide,
    fun t v hv => hsamples (t, v) (Series.mem_points.2 hv),
    fun k v hv => hsums (k, v) (Series.mem_points.2 hv), _, outcome_sumsOnGrid .., ?_, ?_⟩
  · decide +kernel
  · decide +kernel

end MetricQuery
