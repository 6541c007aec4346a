/-
  MetricQuery.Codec.Formula
  ─────────────────────────
  **JSON FORMS OF FORMULAS.**

  A formula is an object whose only field is named for its shape: `number`,
  `variable`, `binary_op` or `unary_op`.

    • `Expr.toJson`  — a formula as JSON,
    • `Expr.ofJson?` — the formula of a JSON value, if it is one.
-/
import MetricQuery.Codec.Basic
import MetricQuery.Formula.Expr

namespace MetricQuery

/-! ## §1. Options. -/

namespace Options

/-- Options are written as an object of strings. -/
def toJson (options : Options) : Json :=
  .object (options.toList.map fun (k, v) => (k, .string v))

/-- The options of an object of strings. -/
def ofJson? (j : Json) : Option Options := do
  let fields ← j.object?
  let entries ← fields.mapM fun (k, v) => v.string?.map fun v => (k, v)
  pure (Std.ExtTreeMap.ofList entries)

end Options

/-! ## §2. Trees. -/

namespace Expr

/-- A formula as JSON.  A number that is not finite has no JSON form and becomes null. -/
def toJson : Expr Float → Json
  | number v => .object [("number", .ofFloat v)]
  | «variable» options => .object [("variable", Options.toJson options)]
  | binary left op right => .object [("binary_op", .object [
      ("left", left.toJson), ("op", .string op.name), ("right", right.toJson)])]
  | unary sign operand => .object [("unary_op", .object [
      ("op", .string sign.name), ("operand", operand.toJson)])]

/-- A pair of operands with the operator between them, from the fields of an object and those of
them that are formulas. -/
def binaryOf? (fields : List (String × Json)) (formulas : List (String × Option (Expr Float))) :
    Option (Expr Float) := do
  let left ← (formulas.lookup "left").join
  let op ← (fields.lookup "op").bind fun j => j.name?.bind BinaryOp.ofName?
  let right ← (formulas.lookup "right").join
  pure (.binary left op right)

/-- A signed operand, from the fields of an object and those of them that are formulas. -/
def unaryOf? (fields : List (String × Json)) (formulas : List (String × Option (Expr Float))) :
    Option (Expr Float) := do
  let sign ← (fields.lookup "op").bind fun j => j.name?.bind Sign.ofName?
  let operand ← (formulas.lookup "operand").join
  pure (.unary sign operand)

mutual

/-- **The formula of a JSON value.** -/
def ofJson? : Json → Option (Expr Float)
  | .object [(shape, .object fields)] =>
      -- Every field is tried as a formula; the shape says which of them have to be.
      let formulas := ofFields fields
      if shape = "variable" then (Options.ofJson? (.object fields)).map .variable
      else if shape = "binary_op" then binaryOf? fields formulas
      else if shape = "unary_op" then unaryOf? fields formulas
      else none
  | .object [(shape, j)] => if shape = "number" then j.float?.map .number else none
  | _ => none

/-- Which of the fields of an object are formulas. -/
def ofFields : List (String × Json) → List (String × Option (Expr Float))
  | [] => []
  | (k, j) :: rest => (k, ofJson? j) :: ofFields rest

end

end Expr
end MetricQuery
