/-
  MetricQuery.Formula.Expr
  ────────────────────────
  **FORMULAS AS TREES.**

  A formula is a number, a variable given by its options, two formulas joined by
  an operator, or a signed formula.

    • `Expr.occurrences` — the options of the variables of a formula, from left to right,
    • `Expr.display` — a formula as a text: operators in parentheses, options by name.
-/
import Std.Data.ExtTreeMap
import MetricQuery.Quantity

namespace MetricQuery

/-! ## §1. Trees. -/

/-- The options of a variable by name, such as `sid` and `nid`. -/
abbrev Options : Type :=
  Std.ExtTreeMap String String

/-- The four operators of arithmetic. -/
inductive BinaryOp where
  | add
  | subtract
  | multiply
  | divide
  deriving DecidableEq, Repr

namespace BinaryOp

/-- Every operator. -/
def all : List BinaryOp :=
  [add, subtract, multiply, divide]

/-- How an operator is written. -/
def symbol : BinaryOp → Char
  | add => '+'
  | subtract => '-'
  | multiply => '*'
  | divide => '/'

/-- The operator that is written so. -/
def ofSymbol? (c : Char) : Option BinaryOp :=
  all.find? fun op => op.symbol == c

/-- The name of an operator. -/
def name : BinaryOp → String
  | add => "add"
  | subtract => "subtract"
  | multiply => "multiply"
  | divide => "divide"

/-- The operator of this name. -/
def ofName? (s : String) : Option BinaryOp :=
  all.find? fun op => op.name == s

theorem ofSymbol?_symbol (op : BinaryOp) : ofSymbol? op.symbol = some op := by
  cases op <;> rfl

theorem ofName?_name (op : BinaryOp) : ofName? op.name = some op := by
  cases op <;> decide +kernel

end BinaryOp

/-- The two signs. -/
inductive Sign where
  | positive
  | negative
  deriving DecidableEq, Repr

namespace Sign

/-- Every sign. -/
def all : List Sign :=
  [positive, negative]

/-- How a sign is written. -/
def symbol : Sign → Char
  | positive => '+'
  | negative => '-'

/-- The name of a sign. -/
def name : Sign → String
  | positive => "positive"
  | negative => "negative"

/-- The sign of this name. -/
def ofName? (s : String) : Option Sign :=
  all.find? fun sign => sign.name == s

theorem ofName?_name (sign : Sign) : ofName? sign.name = some sign := by
  cases sign <;> decide +kernel

end Sign

/-- A formula over numbers of one kind. -/
inductive Expr (α : Type) where
  | number (value : α)
  | variable (options : Options)
  | binary (left : Expr α) (op : BinaryOp) (right : Expr α)
  | unary (sign : Sign) (operand : Expr α)

namespace Expr

variable {α : Type}

/-- The options of the variables of a formula, once per occurrence, from left to right. -/
def occurrences : Expr α → List Options
  | number _ => []
  | «variable» options => [options]
  | binary left _ right => left.occurrences ++ right.occurrences
  | unary _ operand => operand.occurrences

/-- The numbers of a formula, from left to right. -/
def numbers : Expr α → List α
  | number value => [value]
  | «variable» _ => []
  | binary left _ right => left.numbers ++ right.numbers
  | unary _ operand => operand.numbers

/-! ## §2. Text. -/

/-- The options of a variable as a text, in the order of their names. -/
def displayOptions (options : Options) : String :=
  let entries := options.toList.map fun (k, v) => k ++ "=" ++ v
  "[" ++ String.intercalate "," entries ++ "]"

/-- **A formula as a text.**  Joined formulas stand in parentheses, and a sign directly before what
it applies to. -/
def display [Quantity α] : Expr α → String
  | number value => Quantity.text value
  | «variable» options => displayOptions options
  | binary left op right =>
      "(" ++ left.display ++ " " ++ String.singleton op.symbol ++ " " ++ right.display ++ ")"
  | unary sign operand => String.singleton sign.symbol ++ operand.display

end Expr
end MetricQuery
