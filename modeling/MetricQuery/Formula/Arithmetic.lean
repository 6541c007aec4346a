/-
  MetricQuery.Formula.Arithmetic
  ──────────────────────────────
  **ARITHMETIC THAT KNOWS MISSING DATA.**

  Every operator follows one rule, number by number: a missing operand gives a
  missing result, and so does division by zero.  A number meets a series at each
  of its keys; two series meet at the keys of either, and a series that lacks a
  key is missing there.

    • `BinaryOp.elementwise` — the rule on two numbers,
    • `Sign.elementwise`     — a sign on a number, which leaves a missing one missing,
    • `Value.binary`, `Value.unary` — the same on values,
    • `getElem?_pairwise`    — the result of two series at each key.
-/
import MetricQuery.Formula.Expr
import MetricQuery.Formula.Value

namespace MetricQuery

variable {α : Type} [Quantity α]

/-! ## §1. Numbers. -/

/-- An operator on two numbers. -/
def BinaryOp.elementwise (op : BinaryOp) (pad : Padding α) (left right : α) : α :=
  if pad.marks left || pad.marks right then pad.value
  else
    match op with
    | .add => left + right
    | .subtract => left - right
    | .multiply => left * right
    | .divide => if Quantity.equal right Quantity.zero then pad.value else left / right

/-- A sign on one number. -/
def Sign.elementwise (sign : Sign) (pad : Padding α) (v : α) : α :=
  match sign with
  | .positive => v
  | .negative => if pad.marks v then pad.value else -v

/-- **A missing operand gives a missing result.** -/
theorem BinaryOp.elementwise_of_marks {op : BinaryOp} {pad : Padding α} {left right : α}
    (h : pad.marks left = true ∨ pad.marks right = true) :
    op.elementwise pad left right = pad.value := by
  simp [BinaryOp.elementwise, h]

/-! ## §2. Series. -/

/-- The keys of either series. -/
def Series.jointKeys (left right : Series α) : List Int :=
  left.keys ++ right.keys

/-- Two series, key by key. -/
def Series.pairwise (op : BinaryOp) (pad : Padding α) (left right : Series α) : Series α :=
  Series.tabulate (left.jointKeys right) fun k =>
    op.elementwise pad (left[k]?.getD pad.value) (right[k]?.getD pad.value)

/-- **Two series meet at the keys of either.** -/
theorem Series.getElem?_pairwise (op : BinaryOp) (pad : Padding α) (left right : Series α)
    (k : Int) :
    (left.pairwise op pad right)[k]? =
      if k ∈ left ∨ k ∈ right then
        some (op.elementwise pad (left[k]?.getD pad.value) (right[k]?.getD pad.value))
      else none := by
  simp [Series.pairwise, Series.getElem?_tabulate, Series.jointKeys]

/-! ## §3. Values. -/

/-- An operator on two values. -/
def Value.binary (op : BinaryOp) (pad : Padding α) : Value α → Value α → Value α
  | .scalar l, .scalar r => .scalar (op.elementwise pad l r)
  -- A number takes the keys of the series that it meets.
  | .series l, .scalar r => .series (l.pairwise op pad (l.broadcast r))
  | .scalar l, .series r => .series ((r.broadcast l).pairwise op pad r)
  | .series l, .series r => .series (l.pairwise op pad r)

/-- A sign on a value. -/
def Value.unary (sign : Sign) (pad : Padding α) : Value α → Value α
  | .scalar v => .scalar (sign.elementwise pad v)
  | .series s => .series (s.map fun _ v => sign.elementwise pad v)

end MetricQuery
