/-
  MetricQuery.Quantity
  ────────────────────
  **WHAT A SAMPLE VALUE MUST OFFER.**

  Series, aggregations and formulas are written once for every kind of number.
  The class lists the operations they use and promises no law: a kind of number
  may have an undefined value that differs from itself, and its sums may round.

    • `Quantity`           — arithmetic, comparison, reading and writing,
    • `Quantity.undefined` — values that differ from themselves,
    • `Padding`            — the value that stands for missing data,
    • `Padding.marks_iff`  — what counts as missing.
-/
import MetricQuery.Text.Shortest

namespace MetricQuery

/-! ## §1. Quantities. -/

/-- Numbers that can be sampled, aggregated and computed with. -/
class Quantity (α : Type) extends Add α, Sub α, Mul α, Div α, Neg α where
  /-- The number of things counted. -/
  ofCount : Nat → α
  /-- Equality as the kind of number compares. -/
  equal : α → α → Bool
  /-- Strict order as the kind of number compares. -/
  less : α → α → Bool
  /-- The number that a numeral denotes. -/
  ofDecimal : Text.Decimal → α
  /-- The text of a number inside a formula. -/
  text : α → String

namespace Quantity

/-- A value that differs from itself, such as the result of dividing zero by zero. -/
def undefined {α : Type} [Quantity α] (x : α) : Bool :=
  !equal x x

/-- The number zero. -/
def zero {α : Type} [Quantity α] : α :=
  ofCount 0

/-- Floating-point numbers: rounding arithmetic, and comparisons that an undefined number always
fails. -/
instance : Quantity Float where
  ofCount := Float.ofNat
  equal x y := x == y
  less x y := x < y
  ofDecimal := Text.Decimal.toFloat
  text := Text.floatText

end Quantity

/-! ## §2. Padding. -/

/-- The sample value that stands for missing data. -/
structure Padding (α : Type) where
  value : α
  deriving DecidableEq, Repr

namespace Padding

variable {α : Type} [Quantity α]

/-- A value is missing when it equals the padding, or when both are undefined. -/
def marks (pad : Padding α) (v : α) : Bool :=
  Quantity.equal v pad.value || (Quantity.undefined v && Quantity.undefined pad.value)

/-- Two paddings stand for the same missing values. -/
def agrees (pad other : Padding α) : Bool :=
  pad.marks other.value

theorem marks_iff {pad : Padding α} {v : α} :
    pad.marks v = true ↔
      Quantity.equal v pad.value = true ∨
        (Quantity.undefined v = true ∧ Quantity.undefined pad.value = true) := by
  simp [Padding.marks]

/-- **The padding itself is always missing,** an undefined one included. -/
theorem marks_value (pad : Padding α) : pad.marks pad.value = true := by
  unfold Padding.marks Quantity.undefined
  cases Quantity.equal pad.value pad.value <;> rfl

/-- The undefined number, which is the padding unless another is chosen. -/
def missing : Padding Float :=
  ⟨0.0 / 0.0⟩

end Padding
end MetricQuery
