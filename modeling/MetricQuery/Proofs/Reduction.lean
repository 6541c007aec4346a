/-
  MetricQuery.Proofs.Reduction
  ────────────────────────────
  **WHAT A GROUP OF EXACT NUMBERS COMES TO.**

  A tally merges values one at a time, starting from the first.  For exact
  numbers this is the sum, the mean or an extreme of the group as a whole, and
  so it does not depend on the order of the values; sums and extremes do not
  depend either on how the group is cut into parts that are reduced first.

    • `Aggregation.Reduces`   — the reference, without a running tally,
    • `reduce_eq_some_iff`    — a group is reduced to what the reference says,
    • `reduce_perm`           — whatever the order,
    • `reduce_flatMap`        — and, but for the mean, part by part,
    • `Reading`               — exact numbers next to an undefined one,
    • `Reading.exists_numbers` — where no reading is undefined, the same holds.
-/
import Mathlib.Algebra.BigOperators.Group.List.Basic
import MetricQuery.Proofs.Rational

namespace MetricQuery

variable {agg : Aggregation} {xs ys : List ℚ} {y : ℚ}

/-! ## §1. The reference. -/

/-- **What a group of numbers comes to:** its sum, its sum divided by its size, or a member of it
that bounds all the others. -/
def Aggregation.Reduces (agg : Aggregation) (xs : List ℚ) (y : ℚ) : Prop :=
  match agg with
  | .sum => y = xs.sum
  | .avg => y = xs.sum / xs.length
  | .max => y ∈ xs ∧ ∀ x ∈ xs, x ≤ y
  | .min => y ∈ xs ∧ ∀ x ∈ xs, y ≤ x

/-- What a group comes to does not depend on its order. -/
theorem Aggregation.Reduces.perm (h : agg.Reduces xs y) (hperm : xs.Perm ys) :
    agg.Reduces ys y := by
  cases agg with
  | sum =>
      show y = ys.sum
      rw [← hperm.sum_eq]
      exact h
  | avg =>
      show y = ys.sum / ys.length
      rw [← hperm.sum_eq, ← hperm.length_eq]
      exact h
  | max => exact ⟨hperm.mem_iff.1 h.1, fun x hx => h.2 x (hperm.mem_iff.2 hx)⟩
  | min => exact ⟨hperm.mem_iff.1 h.1, fun x hx => h.2 x (hperm.mem_iff.2 hx)⟩

/-! ## §2. Merging. -/

theorem merge_max (x y : ℚ) : Tally.merge .max x y = max x y := by
  show (if decide (x < y) = true then y else x) = max x y
  rcases lt_or_ge x y with h | h
  · rw [if_pos (decide_eq_true h), max_eq_right (le_of_lt h)]
  · rw [if_neg (by simpa using h), max_eq_left h]

theorem merge_min (x y : ℚ) : Tally.merge .min x y = min x y := by
  show (if decide (y < x) = true then y else x) = min x y
  rcases lt_or_ge y x with h | h
  · rw [if_pos (decide_eq_true h), min_eq_right (le_of_lt h)]
  · rw [if_neg (by simpa using h), min_eq_left h]

/-- Exact numbers can be merged in any grouping. -/
instance (agg : Aggregation) : Std.Associative (Tally.merge agg : ℚ → ℚ → ℚ) where
  assoc x y z := by
    cases agg with
    | sum | avg => exact add_assoc x y z
    | max => simp only [merge_max, max_assoc]
    | min => simp only [merge_min, min_assoc]

/-- Merging the numbers of a group from the first on adds them up or finds the extreme. -/
theorem foldl_merge (agg : Aggregation) (x : ℚ) (xs : List ℚ) :
    xs.foldl (Tally.merge agg) x = match agg with
      | .sum | .avg => (x :: xs).sum
      | .max => xs.foldl max x
      | .min => xs.foldl min x := by
  cases agg with
  | sum | avg =>
      show xs.foldl (· + ·) x = (x :: xs).sum
      rw [List.sum_eq_foldl, List.foldl_cons, zero_add]
  | max => exact congrArg (fun f => xs.foldl f x) (funext fun u => funext (merge_max u))
  | min => exact congrArg (fun f => xs.foldl f x) (funext fun u => funext (merge_min u))

/-! ## §3. Groups. -/

/-- **A group is reduced to what the reference says,** and an empty one to nothing. -/
theorem reduce_eq_some_iff : agg.reduce xs = some y ↔ xs ≠ [] ∧ agg.Reduces xs y := by
  cases xs with
  | nil => simp
  | cons x xs =>
      rw [Aggregation.reduce_cons, Tally.value, Option.map_some, foldl_merge, Option.some.injEq]
      simp only [ne_eq, reduceCtorEq, not_false_eq_true, true_and]
      cases agg with
      | sum => exact eq_comm
      | avg => exact eq_comm
      | max =>
          show xs.foldl max x = y ↔ _
          rw [← Option.some.injEq, ← List.max?_cons']
          exact List.max?_eq_some_iff
      | min =>
          show xs.foldl min x = y ↔ _
          rw [← Option.some.injEq, ← List.min?_cons']
          exact List.min?_eq_some_iff

/-- **The order of the numbers does not matter.** -/
theorem reduce_perm (agg : Aggregation) (h : xs.Perm ys) : agg.reduce xs = agg.reduce ys := by
  apply Option.ext
  intro y
  rw [reduce_eq_some_iff, reduce_eq_some_iff]
  constructor
  · intro hx
    exact ⟨fun hnil => hx.1 (hnil ▸ h).eq_nil, hx.2.perm h⟩
  · intro hy
    exact ⟨fun hnil => hy.1 (hnil ▸ h).symm.eq_nil, hy.2.perm h.symm⟩

/-- Two groups one after the other are reduced by merging what each of them comes to. -/
theorem reduce_append (hagg : agg ≠ .avg) (xs ys : List ℚ) :
    agg.reduce (xs ++ ys) = (agg.reduce xs).merge (Tally.merge agg) (agg.reduce ys) := by
  have hvalue := Aggregation.reduce_cons_of_ne_avg (α := ℚ) hagg
  cases xs with
  | nil =>
      rw [List.nil_append, Aggregation.reduce_nil]
      cases agg.reduce ys <;> rfl
  | cons x xs =>
      cases ys with
      | nil =>
          rw [List.append_nil, Aggregation.reduce_nil, hvalue]
          rfl
      | cons y ys =>
          rw [List.cons_append, hvalue, hvalue, hvalue, List.foldl_append, List.foldl_cons,
            List.foldl_assoc]
          rfl

/-- **Part by part:** sums and extremes of groups one after the other are the sum and the extreme of
what the groups come to. -/
theorem reduce_flatMap {κ : Type} (hagg : agg ≠ .avg) (keys : List κ) (group : κ → List ℚ) :
    agg.reduce (keys.flatMap group) =
      agg.reduce (keys.filterMap fun k => agg.reduce (group k)) := by
  induction keys with
  | nil => rfl
  | cons k keys ih =>
      rw [List.flatMap_cons, reduce_append hagg, ih, List.filterMap_cons]
      cases agg.reduce (group k) with
      | none => cases agg.reduce (keys.filterMap fun k => agg.reduce (group k)) <;> rfl
      | some x =>
          have hone : agg.reduce [x] = some x := Aggregation.reduce_cons_of_ne_avg hagg x []
          show _ = agg.reduce ([x] ++ keys.filterMap fun k => agg.reduce (group k))
          rw [reduce_append hagg, hone]

/-! ## §4. Readings. -/

/-- An exact number, or an undefined one that differs from itself. -/
inductive Reading where
  | number (x : ℚ)
  | undefined
  deriving DecidableEq

namespace Reading

/-- An operation on numbers.  On anything undefined its result is undefined. -/
def map₂ (f : ℚ → ℚ → ℚ) : Reading → Reading → Reading
  | number x, number y => number (f x y)
  | _, _ => undefined

/-- A comparison of numbers.  Anything undefined fails it. -/
def compare (f : ℚ → ℚ → Bool) : Reading → Reading → Bool
  | number x, number y => f x y
  | _, _ => false

/-- Exact arithmetic with an undefined number, which dividing by zero leads to. -/
instance : Quantity Reading where
  add := map₂ (· + ·)
  sub := map₂ (· - ·)
  mul := map₂ (· * ·)
  div
    | x, number y => if y = 0 then undefined else map₂ (· / ·) x (number y)
    | _, undefined => undefined
  neg
    | number x => number (-x)
    | undefined => undefined
  ofCount n := number (Quantity.ofCount n)
  equal := compare Quantity.equal
  less := compare Quantity.less
  ofDecimal d := number (Quantity.ofDecimal d)
  text
    | number x => Quantity.text x
    | undefined => "NaN"

theorem merge_number (agg : Aggregation) (x y : ℚ) :
    Tally.merge agg (number x) (number y) = number (Tally.merge agg x y) := by
  cases agg with
  | sum | avg => rfl
  | max =>
      show (if Quantity.less x y = true then number y else number x) = number (if _ then y else x)
      split <;> rfl
  | min =>
      show (if Quantity.less y x = true then number y else number x) = number (if _ then y else x)
      split <;> rfl

/-- **Numbers are reduced as they are without the undefined one.** -/
theorem reduce_map_number (agg : Aggregation) (xs : List ℚ) :
    agg.reduce (xs.map number) = (agg.reduce xs).map number := by
  cases xs with
  | nil => rfl
  | cons x xs =>
      have hmerge : (xs.map number).foldl (Tally.merge agg) (number x) =
          number (xs.foldl (Tally.merge agg) x) := by
        rw [List.foldl_map]
        exact List.foldl_hom number (fun u v => merge_number agg u v)
      rw [List.map_cons, Aggregation.reduce_cons, Aggregation.reduce_cons, List.length_map, hmerge]
      cases agg with
      | sum | max | min => rfl
      | avg =>
          -- The group is not empty, so its size can be divided by.
          have hsize : ((xs.length + 1 : Nat) : ℚ) ≠ 0 := Nat.cast_ne_zero.2 (Nat.succ_ne_zero _)
          show some (if ((xs.length + 1 : Nat) : ℚ) = 0 then undefined else _) = _
          rw [if_neg hsize]
          rfl

/-- The numbers among readings, in their order. -/
def numbers (readings : List Reading) : List ℚ :=
  readings.filterMap fun
    | number x => some x
    | undefined => none

/-- Where nothing is undefined, every reading is one of the numbers. -/
theorem map_numbers {readings : List Reading} (h : undefined ∉ readings) :
    (numbers readings).map number = readings := by
  induction readings with
  | nil => rfl
  | cons reading rest ih =>
      obtain ⟨hfirst, hrest⟩ := not_or.1 (fun hor => h (List.mem_cons.2 hor))
      cases reading with
      | number x =>
          show number x :: (numbers rest).map number = number x :: rest
          rw [ih hrest]
      | undefined => exact absurd rfl hfirst

theorem numbers_flatMap {κ : Type} (keys : List κ) (part : κ → List Reading) :
    numbers (keys.flatMap part) = keys.flatMap fun k => numbers (part k) :=
  List.filterMap_flatMap

theorem numbers_perm {readings other : List Reading} (h : readings.Perm other) :
    (numbers readings).Perm (numbers other) :=
  h.filterMap _

theorem reduce_numbers (agg : Aggregation) {readings : List Reading} (h : undefined ∉ readings) :
    agg.reduce readings = (agg.reduce (numbers readings)).map number := by
  rw [← reduce_map_number, map_numbers h]

/-- **The order of readings does not matter** where none of them is undefined. -/
theorem reduce_perm (agg : Aggregation) {readings other : List Reading}
    (h : undefined ∉ readings) (hperm : readings.Perm other) :
    agg.reduce readings = agg.reduce other := by
  have hother : undefined ∉ other := fun hmem => h (hperm.mem_iff.2 hmem)
  rw [reduce_numbers agg h, reduce_numbers agg hother]
  exact congrArg (Option.map number) (MetricQuery.reduce_perm agg (numbers_perm hperm))

/-- **Where nothing is undefined, readings come to what the reference says** of their numbers. -/
theorem exists_numbers (agg : Aggregation) {readings : List Reading} (h : undefined ∉ readings) :
    ∃ xs : List ℚ, readings = xs.map number ∧
      ∀ v, agg.reduce readings = some v ↔ ∃ y, v = number y ∧ xs ≠ [] ∧ agg.Reduces xs y := by
  refine ⟨numbers readings, (map_numbers h).symm, ?_⟩
  intro v
  rw [reduce_numbers agg h, Option.map_eq_some_iff]
  constructor
  · intro hv
    obtain ⟨y, hy, hvy⟩ := hv
    exact ⟨y, hvy.symm, reduce_eq_some_iff.1 hy⟩
  · intro hv
    obtain ⟨y, hvy, hy⟩ := hv
    exact ⟨y, reduce_eq_some_iff.2 hy, hvy.symm⟩

end Reading
end MetricQuery
