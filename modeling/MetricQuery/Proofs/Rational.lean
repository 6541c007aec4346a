/-
  MetricQuery.Proofs.Rational
  ───────────────────────────
  **EXACT NUMBERS.**

  Rational numbers are a kind of number that never rounds and is never
  undefined.  With them the runs of a pipeline can be computed to the end.

    • `Quantity ℚ`       — rational arithmetic and comparison,
    • `marks_rational`   — only the padding itself is missing,
    • `div_one_rational` — dividing by one changes nothing,
    • `reduce_replicate` — what copies of one value are reduced to.
-/
import Mathlib.Algebra.Order.Field.Rat
import Mathlib.Tactic.Ring
import MetricQuery.Aggregation

namespace MetricQuery

/-- Rational numbers: exact arithmetic, and comparisons that are never undefined. -/
instance : Quantity ℚ where
  ofCount n := n
  equal x y := x == y
  less x y := x < y
  ofDecimal d := d.digits * 10 ^ d.exponent.toNat / 10 ^ (-d.exponent).toNat
  text x := toString x

/-- **Among exact numbers the padding alone is missing.** -/
theorem marks_rational (pad : Padding ℚ) (x : ℚ) : pad.marks x = decide (x = pad.value) := by
  simp [Padding.marks, Quantity.equal, Quantity.undefined, beq_eq_decide]

/-- In exact arithmetic dividing by one changes nothing. -/
theorem div_one_rational (x : ℚ) : x / Quantity.ofCount 1 = x := by
  show x / ((1 : Nat) : ℚ) = x
  simp

/-- One value out of so many copies of it. -/
def ofCopies (agg : Aggregation) (n : Nat) (v : ℚ) : ℚ :=
  match agg with
  | .sum | .avg => n * v
  | .max | .min => v

theorem merge_ofCopies (agg : Aggregation) (n : Nat) (v : ℚ) :
    Tally.merge agg (ofCopies agg n v) v = ofCopies agg (n + 1) v := by
  cases agg with
  | sum | avg =>
      show (n : ℚ) * v + v = (n + 1 : Nat) * v
      push_cast
      ring
  | max | min =>
      show (if Quantity.less v v then v else v) = v
      split <;> rfl

/-- Copies of a value are merged into copies of it. -/
theorem foldl_merge_replicate (agg : Aggregation) (c n : Nat) (v : ℚ) :
    (List.replicate n v).foldl (Tally.merge agg) (ofCopies agg c v) = ofCopies agg (c + n) v := by
  induction n generalizing c with
  | zero => rfl
  | succ n ih =>
      rw [List.replicate_succ, List.foldl_cons, merge_ofCopies, ih (c + 1)]
      rw [show c + 1 + n = c + (n + 1) by omega]

/-- **Copies of a value are reduced to it;** only a sum counts them. -/
theorem reduce_replicate (agg : Aggregation) (n : Nat) (v : ℚ) :
    agg.reduce (List.replicate (n + 1) v) =
      some (if agg = .sum then ((n + 1 : Nat) : ℚ) * v else v) := by
  have hone : ofCopies agg 1 v = v := by
    cases agg <;> simp [ofCopies]
  have hheld : (List.replicate n v).foldl (Tally.merge agg) v = ofCopies agg (n + 1) v := by
    have hcopies := foldl_merge_replicate agg 1 n v
    rwa [hone, Nat.add_comm] at hcopies
  rw [List.replicate_succ, Aggregation.reduce_cons, List.length_replicate, hheld]
  cases agg with
  | avg =>
      have hpos : ((n + 1 : Nat) : ℚ) ≠ 0 := Nat.cast_ne_zero.2 (by omega)
      show some (((n + 1 : Nat) : ℚ) * v / ((n + 1 : Nat) : ℚ)) = some v
      rw [mul_div_cancel_left₀ v hpos]
  | sum => rfl
  | max => rfl
  | min => rfl

end MetricQuery
