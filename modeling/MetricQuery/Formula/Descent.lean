/-
  MetricQuery.Formula.Descent
  ───────────────────────────
  **READING A FORMULA BY RECURSIVE DESCENT.**

  Every phrase of the language has a function of its own, which asks a cursor for
  tokens one after another and steps back by one where a token belongs to what
  comes after the phrase.  A phrase may hold others at any depth, so the functions
  are given the depth to which they may descend; three levels for each character
  are always enough.

    • `Descent.Reading`     — reads from a cursor on, and fails or yields something,
    • `Descent.phrase`      — the functions of the three phrases that stand for a tree,
    • `Descent.assignments` — the options between brackets,
    • `Descent.read`        — a whole formula.
-/
import MetricQuery.Formula.Cursor
import MetricQuery.Formula.Parser

namespace MetricQuery

variable {α β : Type}

/-- The phrases that stand for a tree. -/
inductive Phrase where
  | sum
  | product
  | operand
  deriving DecidableEq, Repr

namespace Descent

/-! ## §1. Readings. -/

/-- Reads from a cursor on: it fails, or yields something and the cursor behind it.  A reading that
would have to descend deeper than it may comes to nothing. -/
abbrev Reading (β : Type) : Type :=
  StateT Cursor (ExceptT Fault Option) β

/-- The depth is used up. -/
def exhausted : Reading β :=
  fun _ => none

/-- The next token. -/
def next : Reading Token :=
  fun c => match c.advance with
    | (.ok t, c) => some (.ok (t, c))
    | (.error fault, _) => some (.error fault)

/-- The last token is due again. -/
def stepBack : Reading Unit :=
  fun c => some (.ok ((), c.stepBack))

/-- Fails at a token. -/
def refuse (t : Token) (cause : SyntaxCause) : Reading β :=
  fun _ => some (.error (.syntaxError t.position t.display cause))

/-- A token of this kind. -/
def expect (kind : TokenKind) (cause : SyntaxCause) : Reading Unit := do
  let t ← next
  if t.kind = kind then pure () else refuse t cause

/-! ## §2. Phrases. -/

/-- The name of an option and its value. -/
def assignment : Reading (String × String) := do
  let key ← next
  if key.kind = .identifier then
    expect .equals .expectedEquals
    let value ← next
    if value.kind = .identifier ∨ value.kind = .number then pure (key.text, value.text)
    else refuse value .expectedOptionValue
  else refuse key .expectedOptionName

/-- Options with commas between them, added to those that there are. -/
def assignments : Nat → Options → Reading Options
  | 0, _ => exhausted
  | depth + 1, options => do
      let (key, value) ← assignment
      let t ← next
      if t.kind = .comma then assignments depth (options.insert key value)
      else
        stepBack
        pure (options.insert key value)

/-- The operator that the first character of a token is. -/
def operatorOf (t : Token) : Reading BinaryOp :=
  match t.text.toList.head?.bind BinaryOp.ofSymbol? with
  | some op => pure op
  | none => refuse t (.reported "unknown operator")

/-- A left operand and, behind one of the operators, what stands to its right. -/
def chain (operators : List BinaryOp) (left right : Reading (Expr α)) : Reading (Expr α) := do
  let l ← left
  let t ← next
  if operators.any fun op => t.isOperator op.symbol then
    let r ← right
    let op ← operatorOf t
    pure (.binary l op r)
  else
    stepBack
    pure l

/-- What stands behind an opening parenthesis. -/
def group (sum : Reading (Expr α)) : Reading (Expr α) := do
  let e ← sum
  expect .closeParen .unbalancedParenthesis
  pure e

/-- What stands behind an opening bracket. -/
def bracket (depth : Nat) : Reading (Expr α) := do
  let options ← assignments depth ∅
  expect .closeBracket .unbalancedBracket
  pure (.variable options)

/-- **The phrases that stand for a tree.** -/
def phrase [Quantity α] : Nat → Phrase → Reading (Expr α)
  | 0, _ => exhausted
  | depth + 1, .sum => chain [.add, .subtract] (phrase depth .product) (phrase depth .sum)
  | depth + 1, .product =>
      chain [.multiply, .divide] (phrase depth .operand) (phrase depth .product)
  | depth + 1, .operand => do
      let t ← next
      match t.kind with
      | .openParen => group (phrase depth .sum)
      | .openBracket => bracket depth
      | .number => pure (.number (Parsing.numberOf t.text))
      | .finish => refuse t .unterminatedExpression
      | _ =>
          match Parsing.signOf? t with
          | some sign =>
              let e ← phrase depth .operand
              pure (.unary sign e)
          | none => refuse t .expectedOperand

/-- A sum and the end of the formula behind it. -/
def whole [Quantity α] (depth : Nat) : Reading (Expr α) := do
  let e ← phrase depth .sum
  expect .finish .expectedOperator
  pure e

/-- **A formula, read by recursive descent.** -/
def read [Quantity α] (formula : String) : Option (Except Fault (Expr α)) :=
  ((whole (3 * formula.toList.length + 3)).run' (Cursor.ofText formula)).run

end Descent
end MetricQuery
