/-
  MetricQuery.Proofs.Series.Groups
  ────────────────────────────────
  **ROLLUPS AS GROUPS.**

  A rollup keeps one tally for each key and adds the values to them as they
  come, whichever key each belongs to.  What it leaves is the reduction of each
  group as a whole: of the present points that lie in one bucket, and of the
  values that several series present at one instant.

    • `flatMap_bucketPoints_perm`  — every present point is in one bucket,
    • `Series.Defined`             — a series that presents numbers only,
    • `rollup_groups`              — over time, bucket by bucket,
    • `combine_append_cons`        — a series that presents nothing changes nothing,
    • `combine_congr_keep`         — and no more does padding inside a series,
    • `combine_per_key`            — over several series, instant by instant.
-/
import Mathlib.Data.List.Forall2
import MetricQuery.Proofs.Partition
import MetricQuery.Proofs.Reduction
import MetricQuery.Proofs.Series.Points
import MetricQuery.Time.Catalog

namespace MetricQuery

namespace Series

variable {α : Type} [Quantity α] {clock : Clock} {r : Resolution} {agg : Aggregation}
  {pad : Padding α} {s : Series α}

/-! ## §1. The buckets of a series. -/

/-- **A rollup has the keys of the buckets of the points that are present.** -/
theorem mem_rollup_iff {k : Int} :
    k ∈ s.rollup clock r agg pad ↔
      ∃ t v, pad.keep s[t]? = some v ∧ bucketKey clock r t = k := by
  rw [Std.ExtTreeMap.mem_iff_isSome_getElem?, getElem?_rollup_bucketPoints,
    Aggregation.isSome_reduce_iff]
  constructor
  · intro h
    obtain ⟨v, hv⟩ := h
    obtain ⟨p, hp, hpv⟩ := List.mem_map.1 hv
    exact ⟨p.1, p.2, mem_bucketPoints.1 hp⟩
  · intro h
    obtain ⟨t, v, hpoint⟩ := h
    exact ⟨v, List.mem_map.2 ⟨(t, v), mem_bucketPoints.2 hpoint, rfl⟩⟩

/-- **Every present point is in one bucket,** and the buckets hold nothing else. -/
theorem flatMap_bucketPoints_perm (clock : Clock) (r : Resolution) (agg : Aggregation)
    (pad : Padding α) (s : Series α) :
    ((s.rollup clock r agg pad).keys.flatMap (s.bucketPoints clock r pad)).Perm
      (s.presentPoints pad) := by
  refine perm_flatMap_filter Std.ExtTreeMap.nodup_keys ?_
  intro p hp
  rw [Std.ExtTreeMap.mem_keys, mem_rollup_iff]
  exact ⟨p.1, p.2, mem_presentPoints.1 hp, rfl⟩

/-- The series presents numbers only.  What is undefined in it, if anything, is missing. -/
def Defined (pad : Padding Reading) (s : Series Reading) : Prop :=
  ∀ t : Int, pad.keep s[t]? ≠ some .undefined

/-- If the padding is undefined, nothing undefined is present. -/
theorem defined_undefined (s : Series Reading) : s.Defined ⟨.undefined⟩ :=
  fun _ hkeep => Bool.noConfusion (Padding.keep_eq_some_iff.1 hkeep).2

/-- The values in a bucket of such a series are numbers. -/
theorem Defined.not_mem_bucketPoints {pad : Padding Reading} {s : Series Reading}
    (h : s.Defined pad) (clock : Clock) (r : Resolution) (k : Int) :
    .undefined ∉ (s.bucketPoints clock r pad k).map Prod.snd := by
  intro hmem
  obtain ⟨p, hp, hundefined⟩ := List.mem_map.1 hmem
  refine h p.1 ?_
  rw [← hundefined]
  exact (mem_bucketPoints.1 hp).1

/-! ## §2. Several series. -/

/-- What several series present at one instant, in their order. -/
def valuesAt (pad : Padding α) (list : List (Series α)) (k : Int) : List α :=
  list.filterMap fun s => pad.keep s[k]?

theorem mem_valuesAt {list : List (Series α)} {k : Int} {v : α} :
    v ∈ valuesAt pad list k ↔ ∃ s ∈ list, pad.keep s[k]? = some v :=
  List.mem_filterMap

/-- **A combination has the instants at which something is present.** -/
theorem mem_combine_iff {list : List (Series α)} {k : Int} :
    k ∈ combine agg pad list ↔ ∃ s ∈ list, ∃ v, pad.keep s[k]? = some v := by
  rw [Std.ExtTreeMap.mem_iff_isSome_getElem?, getElem?_combine, Aggregation.isSome_reduce_iff]
  constructor
  · intro h
    obtain ⟨v, hv⟩ := h
    obtain ⟨s, hs, hkeep⟩ := mem_valuesAt.1 hv
    exact ⟨s, hs, v, hkeep⟩
  · intro h
    obtain ⟨s, hs, v, hkeep⟩ := h
    exact ⟨v, mem_valuesAt.2 ⟨s, hs, hkeep⟩⟩

/-- Series that present the same at every instant, one by one, combine alike. -/
theorem combine_congr_keep {list list' : List (Series α)}
    (h : List.Forall₂ (fun s s' => ∀ k : Int, pad.keep s[k]? = pad.keep s'[k]?) list list') :
    combine agg pad list = combine agg pad list' := by
  apply Std.ExtTreeMap.ext_getElem?
  intro k
  have hvalues : valuesAt pad list k = valuesAt pad list' k := by
    unfold valuesAt
    induction h with
    | nil => rfl
    | cons hkeep _ ih => rw [List.filterMap_cons, List.filterMap_cons, hkeep k, ih]
  rw [getElem?_combine, getElem?_combine]
  exact congrArg agg.reduce hvalues

/-- **A series that presents nothing changes nothing,** wherever it stands. -/
theorem combine_append_cons {before after : List (Series α)} {s : Series α}
    (h : ∀ k : Int, pad.keep s[k]? = none) :
    combine agg pad (before ++ s :: after) = combine agg pad (before ++ after) := by
  apply Std.ExtTreeMap.ext_getElem?
  intro k
  rw [getElem?_combine, getElem?_combine, List.filterMap_append, List.filterMap_append,
    List.filterMap_cons, h k]

/-- The same values, and at some of the other instants padding. -/
def Padded (pad : Padding α) (s s' : Series α) : Prop :=
  ∀ k : Int, s'[k]? = s[k]? ∨ s[k]? = none ∧ ∃ v, s'[k]? = some v ∧ pad.marks v = true

/-- Padding at further instants is nothing more to present. -/
theorem Padded.keep_eq {s s' : Series α} (h : Padded pad s s') (k : Int) :
    pad.keep s[k]? = pad.keep s'[k]? := by
  cases h k with
  | inl hsame => rw [hsame]
  | inr hnew =>
      obtain ⟨hnone, v, hv, hmarks⟩ := hnew
      rw [hnone, hv, Padding.keep_none, Padding.keep, Option.filter_some, hmarks]
      rfl

end Series

/-! ## §3. The two rollups. -/

/-- **A rollup over time groups and reduces.**  It has the keys of the buckets of the points that
are not missing, and the value of a bucket is the reduction of the values of its points, in
ascending order of time; every point that is not missing is in one bucket, and no other point is in
any.  If the points that are not missing are exact numbers, the value is their sum, their sum
divided by their count, or the one among them that bounds them all. -/
theorem rollup_groups (clock : Clock) (r : Resolution) (agg : Aggregation) :
    (∀ (α : Type) [Quantity α] (pad : Padding α) (s : Series α),
      (∀ k, k ∈ s.rollup clock r agg pad ↔
        ∃ t v, s[t]? = some v ∧ pad.marks v = false ∧ bucketKey clock r t = k) ∧
      (∀ k, (s.rollup clock r agg pad)[k]? =
          agg.reduce ((s.bucketPoints clock r pad k).map Prod.snd) ∧
        (s.bucketPoints clock r pad k).Pairwise (fun p q => p.1 < q.1) ∧
        ∀ t v, (t, v) ∈ s.bucketPoints clock r pad k ↔
          s[t]? = some v ∧ pad.marks v = false ∧ bucketKey clock r t = k) ∧
      ((s.rollup clock r agg pad).keys.flatMap (s.bucketPoints clock r pad)).Perm
        (s.points.filter fun p => !pad.marks p.2)) ∧
    ∀ (pad : Padding Reading) (s : Series Reading), s.Defined pad → ∀ k, ∃ xs : List ℚ,
      (s.bucketPoints clock r pad k).map Prod.snd = xs.map Reading.number ∧
        ∀ v, (s.rollup clock r agg pad)[k]? = some v ↔
          ∃ y, v = .number y ∧ xs ≠ [] ∧ agg.Reduces xs y := by
  constructor
  · intro α _ pad s
    refine ⟨?_, ?_, Series.flatMap_bucketPoints_perm clock r agg pad s⟩
    · intro k
      simp only [Series.mem_rollup_iff, Padding.keep_eq_some_iff, and_assoc]
    · intro k
      refine ⟨Series.getElem?_rollup_bucketPoints clock r agg pad s k,
        Series.pairwise_bucketPoints clock r pad s k, ?_⟩
      intro t v
      rw [Series.mem_bucketPoints, Padding.keep_eq_some_iff, and_assoc]
  · intro pad s hdefined k
    rw [Series.getElem?_rollup_bucketPoints]
    exact Reading.exists_numbers agg (hdefined.not_mem_bucketPoints clock r k)

/-- When clocks went back in St. John's, a minute past midnight, the day before went on for another
hour, and so the points of the new day stand on both sides of one of the old day.  Their mean is a
number, although another point of the series is undefined. -/
theorem rollup_groups_stJohns :
    ∃ s : Series Reading,
      s = Series.ofPoints [(1289097030, .number 5), (1289097660, .number 2),
        (1289104260, .number 1), (1289107860, .undefined)] ∧
      s.Defined ⟨.undefined⟩ ∧
      (s.rollup Zone.stJohns.clock .day .avg ⟨.undefined⟩)[(1289097000 : Int)]? =
        some (.number 3) := by
  refine ⟨_, rfl, Series.defined_undefined _, ?_⟩
  obtain ⟨-, hnumbers⟩ := rollup_groups Zone.stJohns.clock .day .avg
  obtain ⟨xs, hxs, hvalue⟩ := hnumbers ⟨.undefined⟩ _ (Series.defined_undefined _) 1289097000
  refine (hvalue _).2 ⟨3, rfl, ?_⟩
  have hgroup : [5, 1].map Reading.number = xs.map Reading.number := by
    rw [← hxs]
    decide +kernel
  have hlist : [5, 1] = xs := List.map_injective_iff.2 (fun _ _ => Reading.number.inj) hgroup
  rw [← hlist]
  refine ⟨List.cons_ne_nil _ _, ?_⟩
  show (3 : ℚ) = [5, 1].sum / ([5, 1] : List ℚ).length
  norm_num

/-- **A combination of series goes by instants and not by their order.**  It has the instants at
which some series holds a value that is not missing, and the value there is the reduction of these
values.  A series that holds nothing but padding, and padding at further instants of any series,
change nothing.  If the values that are not missing are exact numbers, the value at an instant is
their sum, their sum divided by their count, or the one among them that bounds them all, and the
order of the series does not matter. -/
theorem combine_per_key (agg : Aggregation) :
    (∀ (α : Type) [Quantity α] (pad : Padding α) (list : List (Series α)),
      (∀ k, k ∈ Series.combine agg pad list ↔
        ∃ s ∈ list, ∃ v, s[k]? = some v ∧ pad.marks v = false) ∧
      (∀ k : Int, (Series.combine agg pad list)[k]? =
        agg.reduce (Series.valuesAt pad list k)) ∧
      (∀ before after s, list = before ++ after →
        (∀ (k : Int) v, s[k]? = some v → pad.marks v = true) →
          Series.combine agg pad (before ++ s :: after) = Series.combine agg pad list) ∧
      ∀ list', List.Forall₂ (Series.Padded pad) list list' →
        Series.combine agg pad list' = Series.combine agg pad list) ∧
    ∀ (pad : Padding Reading) (list : List (Series Reading)), (∀ s ∈ list, s.Defined pad) →
      (∀ k : Int, ∃ xs : List ℚ, Series.valuesAt pad list k = xs.map Reading.number ∧
        ∀ v, (Series.combine agg pad list)[k]? = some v ↔
          ∃ y, v = .number y ∧ xs ≠ [] ∧ agg.Reduces xs y) ∧
      ∀ list', list.Perm list' → Series.combine agg pad list' = Series.combine agg pad list := by
  constructor
  · intro α _ pad list
    refine ⟨?_, fun k => Series.getElem?_combine agg pad list k, ?_, ?_⟩
    · intro k
      simp only [Series.mem_combine_iff, Padding.keep_eq_some_iff]
    · intro before after s hlist hpad
      rw [hlist]
      refine Series.combine_append_cons fun k => ?_
      refine Option.filter_eq_none_iff.2 fun v hv => ?_
      simp [hpad k v hv]
    · intro list' hpadded
      exact (Series.combine_congr_keep (hpadded.imp fun _ _ h => h.keep_eq)).symm
  · intro pad list hdefined
    have hvalues : ∀ k, .undefined ∉ Series.valuesAt pad list k := by
      intro k hmem
      obtain ⟨s, hs, hkeep⟩ := Series.mem_valuesAt.1 hmem
      exact hdefined s hs k hkeep
    constructor
    · intro k
      rw [Series.getElem?_combine]
      exact Reading.exists_numbers agg (hvalues k)
    · intro list' hperm
      apply Std.ExtTreeMap.ext_getElem?
      intro k
      rw [Series.getElem?_combine, Series.getElem?_combine]
      exact (Reading.reduce_perm agg (hvalues k) (hperm.filterMap _)).symm

/-- Three series that do not hold the same instants, one of them undefined at one: the largest value
there is that of the other two, and the same from last to first. -/
theorem combine_per_key_three :
    ∃ list : List (Series Reading),
      list = [Series.ofPoints [(0, .number 1), (60, .undefined)],
        Series.ofPoints [(60, .number 7)], Series.ofPoints [(0, .number 4), (60, .number 2)]] ∧
      (∀ s ∈ list, s.Defined ⟨.undefined⟩) ∧
      (Series.combine .max ⟨.undefined⟩ list)[(60 : Int)]? = some (.number 7) ∧
      Series.combine .max ⟨.undefined⟩ list.reverse = Series.combine .max ⟨.undefined⟩ list := by
  refine ⟨_, rfl, fun s _ => s.defined_undefined, ?_⟩
  obtain ⟨-, hnumbers⟩ := combine_per_key .max
  obtain ⟨hvalues, horder⟩ := hnumbers ⟨.undefined⟩ _ fun s _ => s.defined_undefined
  refine ⟨?_, horder _ (List.reverse_perm _).symm⟩
  obtain ⟨xs, hxs, hvalue⟩ := hvalues 60
  refine (hvalue _).2 ⟨7, rfl, ?_⟩
  have hgroup : [7, 2].map Reading.number = xs.map Reading.number := by
    rw [← hxs]
    decide +kernel
  have hlist : [7, 2] = xs := List.map_injective_iff.2 (fun _ _ => Reading.number.inj) hgroup
  rw [← hlist]
  refine ⟨List.cons_ne_nil _ _, List.mem_cons_self, ?_⟩
  decide +kernel

end MetricQuery
