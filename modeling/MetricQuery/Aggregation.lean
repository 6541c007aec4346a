/-
  MetricQuery.Aggregation
  ───────────────────────
  **REDUCING THE VALUES OF A BUCKET TO ONE.**

  Values are added one at a time to a running tally.  Sums and averages add up;
  extremes start from the first value and give way only to a strictly better one.
  An average is formed when the tally is read.

    • `Aggregation.ofName?`  — names are read without regard to case,
    • `Tally.add`, `Tally.value` — the running reduction,
    • `Aggregation.reduce`   — the reduction of a whole list,
    • `Aggregation.reduce_eq_none_iff` — only the empty list has no value.
-/
import MetricQuery.Fault
import MetricQuery.Quantity

namespace MetricQuery

/-! ## §1. The four reductions and their names. -/

/-- How the values of one bucket become one value. -/
inductive Aggregation where
  | sum
  | avg
  | max
  | min
  deriving DecidableEq, Repr

namespace Aggregation

/-- Every reduction. -/
def all : List Aggregation :=
  [sum, avg, max, min]

/-- The name of a reduction. -/
def name : Aggregation → String
  | sum => "sum"
  | avg => "avg"
  | max => "max"
  | min => "min"

/-- The reduction of exactly this name. -/
def ofExactName? (s : String) : Option Aggregation :=
  all.find? fun a => a.name == s

/-- The reduction of this name, where only ASCII letters change case. -/
def ofName? (s : String) : Option Aggregation :=
  ofExactName? (s.map Char.toLower)

theorem ofExactName?_name (a : Aggregation) : ofExactName? a.name = some a := by
  cases a <;> decide +kernel

/-- The reduction of this name, or the failure that keeps the name as it was written. -/
def checked (s : String) : Except Fault Aggregation :=
  match ofName? s with
  | some a => .ok a
  | none => .error (.unsupportedAggregation s)

end Aggregation

/-! ## §2. Running tallies. -/

/-- What has been seen of a bucket: how many values, and what they add up to or the extreme among
them. -/
structure Tally (α : Type) where
  count : Nat
  held : Option α
  deriving DecidableEq, Repr

namespace Tally

variable {α : Type}

/-- Nothing seen yet. -/
def empty : Tally α :=
  ⟨0, none⟩

/-- One value joins what is held. -/
def merge [Quantity α] (agg : Aggregation) (held v : α) : α :=
  match agg with
  | .sum | .avg => held + v
  | .max => if Quantity.less held v then v else held
  | .min => if Quantity.less v held then v else held

/-- One more value. -/
def add [Quantity α] (agg : Aggregation) (t : Tally α) (v : α) : Tally α :=
  ⟨t.count + 1, some (match t.held with
    | none => v
    | some held => merge agg held v)⟩

/-- The reduction of what was seen, if anything was. -/
def value [Quantity α] (agg : Aggregation) (t : Tally α) : Option α :=
  t.held.map fun held =>
    match agg with
    | .avg => held / Quantity.ofCount t.count
    | .sum | .max | .min => held

/-- Values join a tally that holds something by being merged in, one after the other. -/
theorem foldl_add_some [Quantity α] (agg : Aggregation) (count : Nat) (held : α) (vs : List α) :
    vs.foldl (add agg) ⟨count, some held⟩ =
      ⟨count + vs.length, some (vs.foldl (merge agg) held)⟩ := by
  induction vs generalizing count held with
  | nil => rfl
  | cons v vs ih =>
      show vs.foldl (add agg) ⟨count + 1, some (merge agg held v)⟩ = _
      rw [ih, List.foldl_cons, List.length_cons, Nat.add_assoc, Nat.add_comm 1]

end Tally

/-! ## §3. Reducing a list. -/

namespace Aggregation

variable {α : Type} [Quantity α]

/-- The reduction of a list of values, in order. -/
def reduce (agg : Aggregation) (vs : List α) : Option α :=
  (vs.foldl (Tally.add agg) Tally.empty).value agg

@[simp] theorem reduce_nil (agg : Aggregation) : agg.reduce ([] : List α) = none := rfl

/-- **The values are merged in their order,** from the first one on. -/
theorem reduce_cons (agg : Aggregation) (v : α) (vs : List α) :
    agg.reduce (v :: vs) =
      Tally.value agg ⟨vs.length + 1, some (vs.foldl (Tally.merge agg) v)⟩ := by
  show Tally.value agg (vs.foldl (Tally.add agg) ⟨1, some v⟩) = _
  rw [Tally.foldl_add_some, Nat.add_comm]

/-- But for the mean, what is held in the end is what is told. -/
theorem reduce_cons_of_ne_avg {agg : Aggregation} (hagg : agg ≠ .avg) (v : α) (vs : List α) :
    agg.reduce (v :: vs) = some (vs.foldl (Tally.merge agg) v) := by
  rw [reduce_cons]
  cases agg with
  | avg => exact absurd rfl hagg
  | sum | max | min => rfl

/-- **Only the empty list has no reduction.** -/
theorem reduce_eq_none_iff {agg : Aggregation} {vs : List α} :
    agg.reduce vs = none ↔ vs = [] := by
  cases vs with
  | nil => simp
  | cons v vs =>
      rw [reduce_cons]
      simp [Tally.value]

theorem isSome_reduce_iff {agg : Aggregation} {vs : List α} :
    (agg.reduce vs).isSome = true ↔ ∃ v, v ∈ vs := by
  rw [Option.isSome_iff_ne_none, ne_eq, reduce_eq_none_iff]
  exact ⟨List.exists_mem_of_ne_nil vs, fun ⟨_, hv⟩ => List.ne_nil_of_mem hv⟩

end Aggregation
end MetricQuery
