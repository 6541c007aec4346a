/-
  MetricQuery.Formula.Value
  ─────────────────────────
  **WHAT A FORMULA EVALUATES TO.**

  A value is one number or a whole series.

    • `Value.typeName` — which of the two it is,
    • `Value.same`     — numbers compared as their kind compares them.
-/
import MetricQuery.Series.Basic

namespace MetricQuery

/-- A number or a series. -/
inductive Value (α : Type) where
  | scalar (value : α)
  | series (series : Series α)

namespace Value

variable {α : Type}

/-- The name of the shape of a value. -/
def typeName : Value α → String
  | scalar _ => "scalar"
  | series _ => "series"

/-- The number, if the value is one. -/
def scalar? : Value α → Option α
  | scalar v => some v
  | series _ => none

/-- The series, if the value is one. -/
def series? : Value α → Option (Series α)
  | scalar _ => none
  | series s => some s

/-- Equal values: both numbers or both series, with numbers that compare equal. -/
def same [Quantity α] : Value α → Value α → Bool
  | scalar v, scalar w => Quantity.equal v w
  | series s, series t => s.same t
  | _, _ => false

end Value
end MetricQuery
