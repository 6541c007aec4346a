/-
  MetricQuery.Proofs.Series.Points
  ────────────────────────────────
  **THE POINTS OF A SERIES, READ OFF ANY ASCENDING LIST OF INSTANTS.**

  A series lists its points by itself.  Where an ascending list of instants is
  known to cover its present points, the same points come from looking the
  instants up one by one, and so rollups can be stated without the series in
  between.

    • `Padding.keep`            — a value, unless it stands for missing data,
    • `keys_eq`                 — a series is on a grid if its keys are the grid,
    • `presentPoints_eq_filterMap` — the present points of a series, by look-ups,
    • `getElem?_rollup`         — the value of a bucket, by look-ups,
    • `bucketPoints`            — the present points in one bucket,
    • `getElem?_rollup_congr`   — the value of a bucket depends on its own instants,
    • `getElem?_combine`        — the value at an instant across series,
    • `presentPoints_onto`      — a grid that covers the present points keeps them.
-/
import Mathlib.Data.List.Sort
import MetricQuery.Series.Reduce

namespace MetricQuery

variable {α : Type}

/-! ## §1. Values that are not missing. -/

namespace Padding

variable [Quantity α]

/-- The value, unless there is none or it stands for missing data. -/
def keep (pad : Padding α) (v : Option α) : Option α :=
  v.filter fun x => !pad.marks x

@[simp] theorem keep_none (pad : Padding α) : pad.keep none = none := rfl

@[simp] theorem keep_value (pad : Padding α) : pad.keep (some pad.value) = none := by
  simp [keep, Option.filter, pad.marks_value]

theorem keep_eq_some_iff {pad : Padding α} {v : Option α} {x : α} :
    pad.keep v = some x ↔ v = some x ∧ pad.marks x = false := by
  simp [keep, Option.filter_eq_some_iff]

/-- Padding that was put in place of nothing is nothing again. -/
theorem keep_getD (pad : Padding α) (v : Option α) :
    pad.keep (some (v.getD pad.value)) = pad.keep v := by
  cases v <;> simp

end Padding

namespace Series

/-! ## §2. Points by look-ups. -/

theorem pairwise_points (s : Series α) : s.points.Pairwise fun p q => p.1 < q.1 := by
  have h : s.toList.Pairwise fun p q => compare p.1 q.1 = .lt :=
    Std.ExtTreeMap.ordered_keys_toList
  exact h.imp fun hpq => Int.compare_eq_lt.1 hpq

theorem mem_points {s : Series α} {k : Int} {v : α} : (k, v) ∈ s.points ↔ s[k]? = some v :=
  Std.ExtTreeMap.mem_toList_iff_getElem?_eq_some

theorem values_eq_map_points (s : Series α) : s.values = s.points.map Prod.snd := by
  -- The values are gathered in the order of the points.
  show s.foldr (fun _ v vs => v :: vs) [] = s.toList.map Prod.snd
  rw [Std.ExtTreeMap.foldr_eq_foldr_toList]
  induction s.toList with
  | nil => rfl
  | cons p points ih => rw [List.foldr_cons, ih, List.map_cons]

/-- The present values are those of the present points. -/
theorem present_eq_map [Quantity α] (s : Series α) (pad : Padding α) :
    s.present pad = (s.presentPoints pad).map Prod.snd := by
  unfold present presentPoints
  rw [values_eq_map_points, List.filter_map]
  rfl

theorem pairwise_keys (s : Series α) : s.keys.Pairwise (· < ·) := by
  have h : s.keys.Pairwise fun t u => compare t u = .lt := Std.ExtTreeMap.ordered_keys
  exact h.imp fun htu => Int.compare_eq_lt.1 htu

/-- A series has exactly the keys of an ascending list if it has its members. -/
theorem keys_eq {s : Series α} {grid : List Int} (hgrid : grid.Pairwise (· < ·))
    (h : ∀ k, k ∈ s ↔ k ∈ grid) : s.keys = grid :=
  List.Pairwise.eq_of_mem_iff s.pairwise_keys hgrid fun k => Std.ExtTreeMap.mem_keys.trans (h k)

theorem mem_tabulate_iff {keys : List Int} {f : Int → α} {k : Int} :
    k ∈ tabulate keys f ↔ k ∈ keys := by
  rw [Std.ExtTreeMap.mem_iff_isSome_getElem?, getElem?_tabulate]
  by_cases hk : k ∈ keys <;> simp [hk]

theorem mem_onto_iff {s : Series α} {grid : List Int} {pad : Padding α} {k : Int} :
    k ∈ s.onto grid pad ↔ k ∈ grid :=
  mem_tabulate_iff

/-- What a series presents it presents at its keys. -/
theorem mem_keys_of_keep [Quantity α] {s : Series α} {pad : Padding α} {k : Int} {v : α}
    (h : pad.keep s[k]? = some v) : k ∈ s.keys := by
  rw [Std.ExtTreeMap.mem_keys, Std.ExtTreeMap.mem_iff_isSome_getElem?,
    (Padding.keep_eq_some_iff.1 h).1]
  rfl

theorem mem_presentPoints [Quantity α] {s : Series α} {pad : Padding α} {k : Int} {v : α} :
    (k, v) ∈ s.presentPoints pad ↔ pad.keep s[k]? = some v := by
  rw [presentPoints, List.mem_filter, mem_points, Padding.keep_eq_some_iff]
  simp

/-- **The present points of a series are those that the look-ups find,** on any ascending list of
instants that leaves none of them out. -/
theorem presentPoints_eq_filterMap [Quantity α] {s : Series α} {pad : Padding α} {keys : List Int}
    (hk : keys.Pairwise (· < ·)) (hs : ∀ k v, pad.keep s[k]? = some v → k ∈ keys) :
    s.presentPoints pad = keys.filterMap fun k => (pad.keep s[k]?).map fun v => (k, v) := by
  -- Both lists ascend by instant, so they are equal as soon as they have the same members.
  have : Std.Antisymm fun p q : Int × α => p.1 < q.1 := ⟨fun p q h h' => by omega⟩
  have : Std.Irrefl fun p q : Int × α => p.1 < q.1 := ⟨fun p h => by omega⟩
  refine List.Pairwise.eq_of_mem_iff (s.pairwise_points.filter _) ?_ ?_
  · refine List.Pairwise.filterMap (fun k => (pad.keep s[k]?).map fun v => (k, v)) ?_ hk
    intro k l hkl p hp q hq
    obtain ⟨v, -, rfl⟩ := Option.map_eq_some_iff.1 hp
    obtain ⟨w, -, rfl⟩ := Option.map_eq_some_iff.1 hq
    exact hkl
  · rintro ⟨k, v⟩
    rw [List.mem_filterMap]
    refine mem_presentPoints.trans ?_
    constructor
    · intro h
      exact ⟨k, hs k v h, by rw [h]; rfl⟩
    · rintro ⟨l, -, hl⟩
      obtain ⟨w, hw, heq⟩ := Option.map_eq_some_iff.1 hl
      cases heq
      exact hw

/-- What a bucket gathers depends on the instants that lie in it. -/
theorem gather_congr {keys : List Int} {key : Int → Int} {k : Int} {f g : Int → Option α}
    (h : ∀ t ∈ keys, key t = k → f t = g t) :
    (keys.filterMap fun t => if key t = k then f t else none) =
      keys.filterMap fun t => if key t = k then g t else none := by
  refine List.filterMap_congr ?_
  intro t ht
  by_cases hk : key t = k
  · rw [if_pos hk, if_pos hk, h t ht hk]
  · rw [if_neg hk, if_neg hk]

/-- The values that come with a key among the present points. -/
theorem groupAt_presentPoints [Quantity α] {s : Series α} {pad : Padding α} {keys : List Int}
    (hk : keys.Pairwise (· < ·)) (hs : ∀ k v, pad.keep s[k]? = some v → k ∈ keys)
    (f : Int → Int) (k : Int) :
    groupAt ((s.presentPoints pad).map fun p => (f p.1, p.2)) k =
      keys.filterMap fun t => if f t = k then pad.keep s[t]? else none := by
  rw [presentPoints_eq_filterMap hk hs]
  -- From here on it is a fact about any list of instants.
  clear hk hs
  induction keys with
  | nil => rfl
  | cons t keys ih =>
      rw [List.filterMap_cons, List.filterMap_cons]
      cases pad.keep s[t]? with
      | none => simpa using ih
      | some v => by_cases hf : f t = k <;> simp_all [groupAt]

/-- **The value of a bucket** is the reduction of the present values at the instants that lie in
it. -/
theorem getElem?_rollup [Quantity α] {s : Series α} {pad : Padding α} {keys : List Int}
    (clock : Clock) (r : Resolution) (agg : Aggregation) (hk : keys.Pairwise (· < ·))
    (hs : ∀ k v, pad.keep s[k]? = some v → k ∈ keys) (k : Int) :
    (s.rollup clock r agg pad)[k]? =
      agg.reduce (keys.filterMap fun t =>
        if bucketKey clock r t = k then pad.keep s[t]? else none) := by
  rw [rollup, getElem?_reduceByKey, groupAt_presentPoints hk hs]

/-- The present points in the bucket with the key `k`, ascending. -/
def bucketPoints [Quantity α] (clock : Clock) (r : Resolution) (pad : Padding α) (s : Series α)
    (k : Int) : List (Int × α) :=
  (s.presentPoints pad).filter fun p => bucketKey clock r p.1 == k

theorem mem_bucketPoints [Quantity α] {clock : Clock} {r : Resolution} {pad : Padding α}
    {s : Series α} {k t : Int} {v : α} :
    (t, v) ∈ s.bucketPoints clock r pad k ↔
      pad.keep s[t]? = some v ∧ bucketKey clock r t = k := by
  rw [bucketPoints, List.mem_filter, beq_iff_eq]
  exact and_congr_left fun _ => mem_presentPoints

theorem pairwise_bucketPoints [Quantity α] (clock : Clock) (r : Resolution) (pad : Padding α)
    (s : Series α) (k : Int) :
    (s.bucketPoints clock r pad k).Pairwise fun p q => p.1 < q.1 :=
  (s.pairwise_points.filter _).filter _

/-- **The value of a bucket** is the reduction of the values of its points. -/
theorem getElem?_rollup_bucketPoints [Quantity α] (clock : Clock) (r : Resolution)
    (agg : Aggregation) (pad : Padding α) (s : Series α) (k : Int) :
    (s.rollup clock r agg pad)[k]? =
      agg.reduce ((s.bucketPoints clock r pad k).map Prod.snd) := by
  rw [rollup, getElem?_reduceByKey, groupAt, List.filter_map, List.map_map]
  rfl

/-- **The value of a bucket depends on what is present at the instants that lie in it.** -/
theorem getElem?_rollup_congr [Quantity α] {s t : Series α} {pad : Padding α} (clock : Clock)
    (r : Resolution) (agg : Aggregation) {k : Int}
    (h : ∀ u, bucketKey clock r u = k → pad.keep s[u]? = pad.keep t[u]?) :
    (s.rollup clock r agg pad)[k]? = (t.rollup clock r agg pad)[k]? := by
  -- The points of the bucket ascend in both series, so it is enough that they are the same ones.
  have : Std.Antisymm fun p q : Int × α => p.1 < q.1 := ⟨fun p q h h' => by omega⟩
  have : Std.Irrefl fun p q : Int × α => p.1 < q.1 := ⟨fun p h => by omega⟩
  have hpoints : s.bucketPoints clock r pad k = t.bucketPoints clock r pad k := by
    refine List.Pairwise.eq_of_mem_iff (pairwise_bucketPoints clock r pad s k)
      (pairwise_bucketPoints clock r pad t k) ?_
    intro p
    obtain ⟨u, v⟩ := p
    rw [mem_bucketPoints, mem_bucketPoints]
    exact and_congr_left fun hu => by rw [h u hu]
  rw [getElem?_rollup_bucketPoints, getElem?_rollup_bucketPoints, hpoints]

/-- Of an ascending list, one instant alone contributes to itself. -/
theorem filterMap_eq_toList {keys : List Int} (hk : keys.Pairwise (· < ·)) (f : Int → Option α)
    (k : Int) :
    (keys.filterMap fun t => if t = k then f t else none) =
      if k ∈ keys then (f k).toList else [] := by
  induction hk with
  | nil => rfl
  | @cons t keys ht _ ih =>
      rw [List.filterMap_cons, ih]
      by_cases h : t = k
      · subst h
        have hn : t ∉ keys := fun hm => Int.lt_irrefl t (ht t hm)
        cases f t <;> simp [hn]
      · simp [h, Ne.symm h]

/-- The present value that a series holds at an instant, if any. -/
theorem groupAt_presentPoints_self [Quantity α] (s : Series α) (pad : Padding α) (k : Int) :
    groupAt (s.presentPoints pad) k = (pad.keep s[k]?).toList := by
  -- The keys of the series itself cover it, and each of them stands alone under its own key.
  have hcover : ∀ t v, pad.keep s[t]? = some v → t ∈ s.keys := fun _ _ => mem_keys_of_keep
  have h := groupAt_presentPoints s.pairwise_keys hcover id k
  rw [show (s.presentPoints pad).map (fun p => (id p.1, p.2)) = s.presentPoints pad by simp] at h
  rw [h]
  simp only [id_eq]
  rw [filterMap_eq_toList s.pairwise_keys]
  split
  · rfl
  · rename_i hn
    cases hv : pad.keep s[k]? with
    | none => rfl
    | some v => exact absurd (mem_keys_of_keep hv) hn

/-- **The value at an instant across series** is the reduction of the present values there, in the
order of the series. -/
theorem getElem?_combine [Quantity α] (agg : Aggregation) (pad : Padding α)
    (list : List (Series α)) (k : Int) :
    (combine agg pad list)[k]? = agg.reduce (list.filterMap fun s => pad.keep s[k]?) := by
  -- Each series has at most one present point at the instant.
  have hgroup : groupAt (list.flatMap fun s => s.presentPoints pad) k =
      list.filterMap fun s => pad.keep s[k]? := by
    induction list with
    | nil => rfl
    | cons s list ih =>
        have happend :
            groupAt (s.presentPoints pad ++ list.flatMap fun s => s.presentPoints pad) k =
              groupAt (s.presentPoints pad) k ++
                groupAt (list.flatMap fun s => s.presentPoints pad) k := by
          simp [groupAt]
        rw [List.flatMap_cons, happend, ih, groupAt_presentPoints_self, List.filterMap_cons]
        cases pad.keep s[k]? <;> rfl
  rw [combine, getElem?_reduceByKey, hgroup]

/-- What a series on a grid presents: what it presented before, at the keys of the grid. -/
theorem keep_getElem?_onto [Quantity α] (s : Series α) (grid : List Int) (pad : Padding α)
    (k : Int) : pad.keep (s.onto grid pad)[k]? = if k ∈ grid then pad.keep s[k]? else none := by
  rw [getElem?_onto]
  split
  · exact pad.keep_getD _
  · rfl

/-- **A grid with room for every present point** changes none of them. -/
theorem presentPoints_onto [Quantity α] {s : Series α} {pad : Padding α} {grid : List Int}
    (hgrid : grid.Pairwise (· < ·)) (hs : ∀ k v, pad.keep s[k]? = some v → k ∈ grid) :
    (s.onto grid pad).presentPoints pad = s.presentPoints pad := by
  have honto : ∀ k v, pad.keep (s.onto grid pad)[k]? = some v → k ∈ grid := by
    intro k v hkeep
    rw [keep_getElem?_onto] at hkeep
    by_contra hk
    rw [if_neg hk] at hkeep
    cases hkeep
  rw [presentPoints_eq_filterMap hgrid honto, presentPoints_eq_filterMap hgrid hs]
  refine List.filterMap_congr ?_
  intro k hk
  rw [keep_getElem?_onto, if_pos hk]

end Series
end MetricQuery
