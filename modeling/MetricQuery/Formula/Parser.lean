/-
  MetricQuery.Formula.Parser
  ──────────────────────────
  **FROM TOKENS TO TREES.**

  The language of formulas:

      expr     := product (('+' | '-') expr)?
      product  := operand (('*' | '/') product)?
      operand  := '(' expr ')' | '[' options ']' | number | ('+' | '-') operand
      options  := option (',' options)?
      option   := identifier '=' (identifier | number)

  Both levels of operators group to the right.  The parser reads every token
  once, from left to right.  Between two tokens it remembers what is pending at
  each open parenthesis and what may come next, so a token is refused exactly
  where no continuation is left, and the refusal names what was expected there.

    • `Parsing.next?`    — what a token leads to, if it may come next,
    • `Parsing.refusal`  — what was expected in place of a token,
    • `Parsing.conclude` — the end of the formula,
    • `parse`            — a whole formula.
-/
import MetricQuery.Formula.Expr
import MetricQuery.Formula.Scan

namespace MetricQuery

variable {α : Type}

/-! ## §1. What is pending. -/

/-- The operands and signs that wait for the operand to their right, inside one pair of
parentheses.  The innermost stands first. -/
structure Level (α : Type) where
  /-- Left operands of additions and subtractions. -/
  sums : List (Expr α × BinaryOp)
  /-- Left operands of multiplications and divisions. -/
  products : List (Expr α × BinaryOp)
  signs : List Sign

namespace Level

/-- Nothing is pending. -/
def empty : Level α :=
  ⟨[], [], []⟩

/-- Every waiting left operand takes what has been built to its right. -/
def join (pending : List (Expr α × BinaryOp)) (right : Expr α) : Expr α :=
  pending.foldl (fun right p => .binary p.1 p.2 right) right

/-- An operand with the signs before it. -/
def signed (level : Level α) (operand : Expr α) : Expr α :=
  level.signs.foldl (fun operand sign => .unary sign operand) operand

/-- The product that a last operand completes. -/
def product (level : Level α) (operand : Expr α) : Expr α :=
  join level.products operand

/-- The expression that a last operand completes. -/
def close (level : Level α) (operand : Expr α) : Expr α :=
  join level.sums (level.product operand)

end Level

/-- What may come next. -/
inductive Expectation (α : Type) where
  | operand
  /-- An operator after a complete operand, or the end of the group. -/
  | operator (operand : Expr α)
  | optionName (options : Options)
  | optionEquals (options : Options) (key : String)
  | optionValue (options : Options) (key : String)
  /-- A comma or the closing bracket. -/
  | optionEnd (options : Options)

/-- The state between two tokens: the current group, the groups around it, and what may come
next. -/
structure Parsing (α : Type) where
  level : Level α
  outer : List (Level α)
  expected : Expectation α

namespace Parsing

/-- Before the first token. -/
def start : Parsing α :=
  ⟨Level.empty, [], .operand⟩

/-! ## §2. One token. -/

/-- An operand is complete: the signs before it apply. -/
def complete (level : Level α) (outer : List (Level α)) (operand : Expr α) : Parsing α :=
  ⟨{ level with signs := [] }, outer, .operator (level.signed operand)⟩

/-- The number of a token's text. -/
def numberOf [Quantity α] (text : String) : α :=
  let whole := text.toList.takeWhile Text.isDigit
  let fraction := (text.toList.dropWhile Text.isDigit).drop 1
  Quantity.ofDecimal (Text.Decimal.ofParts whole fraction)

/-- The operator that a token is. -/
def operatorOf? (t : Token) : Option BinaryOp :=
  BinaryOp.all.find? fun op => t.isOperator op.symbol

/-- The sign that a token is. -/
def signOf? (t : Token) : Option Sign :=
  Sign.all.find? fun sign => t.isOperator sign.symbol

/-- An operator after `operand`.  A sum completes the product before it, a product does not. -/
def operate (level : Level α) (operand : Expr α) (op : BinaryOp) : Level α :=
  match op with
  -- The product that ends here becomes a left operand.
  | .add | .subtract => ⟨(level.product operand, op) :: level.sums, [], []⟩
  | .multiply | .divide => { level with products := (operand, op) :: level.products }

/-- The state after a token where an operand is expected. -/
def afterOperandToken? [Quantity α] (p : Parsing α) (t : Token) : Option (Parsing α) :=
  match t.kind with
  | .openParen => some ⟨Level.empty, p.level :: p.outer, .operand⟩
  | .openBracket => some { p with expected := .optionName ∅ }
  | .number => some (complete p.level p.outer (.number (numberOf t.text)))
  | .operator => (signOf? t).map fun sign =>
      { p with level := { p.level with signs := sign :: p.level.signs } }
  | _ => none

/-- The state after a token that follows the complete `operand`. -/
def afterOperatorToken? (p : Parsing α) (operand : Expr α) (t : Token) : Option (Parsing α) :=
  match t.kind, p.outer with
  | .operator, _ => (operatorOf? t).map fun op =>
      ⟨operate p.level operand op, p.outer, .operand⟩
  -- The group in parentheses is an operand of the group around it.
  | .closeParen, level :: outer => some (complete level outer (p.level.close operand))
  | _, _ => none

/-- The state after a token, if a token of its kind may come next. -/
def next? [Quantity α] (p : Parsing α) (t : Token) : Option (Parsing α) :=
  match p.expected, t.kind with
  | .operand, _ => p.afterOperandToken? t
  | .operator operand, _ => p.afterOperatorToken? operand t
  | .optionName options, .identifier => some { p with expected := .optionEquals options t.text }
  | .optionEquals options key, .equals => some { p with expected := .optionValue options key }
  | .optionValue options key, .identifier | .optionValue options key, .number =>
      some { p with expected := .optionEnd (options.insert key t.text) }
  | .optionEnd options, .comma => some { p with expected := .optionName options }
  | .optionEnd options, .closeBracket => some (complete p.level p.outer (.variable options))
  | _, _ => none

/-- Why a token may not come next: what was expected in its place. -/
def refusal (p : Parsing α) (t : Token) : SyntaxCause :=
  match p.expected with
  | .operand => if t.kind = .finish then .unterminatedExpression else .expectedOperand
  | .operator _ => if p.outer.isEmpty then .expectedOperator else .unbalancedParenthesis
  | .optionName _ => .expectedOptionName
  | .optionEquals _ _ => .expectedEquals
  | .optionValue _ _ => .expectedOptionValue
  | .optionEnd _ => .unbalancedBracket

/-- The failure at a token that may not come next. -/
def refuse {β : Type} (p : Parsing α) (t : Token) : Except Fault β :=
  .error (.syntaxError t.position t.display (p.refusal t))

/-- **One token.** -/
def step [Quantity α] (p : Parsing α) (t : Token) : Except Fault (Parsing α) :=
  match p.next? t with
  | some p => .ok p
  | none => p.refuse t

/-! ## §3. The end. -/

/-- The finished expression, if the formula may end here. -/
def result? (p : Parsing α) : Option (Expr α) :=
  match p.expected, p.outer with
  | .operator operand, [] => some (p.level.close operand)
  | _, _ => none

/-- **The end of the formula,** at a byte position. -/
def conclude (p : Parsing α) (position : Nat) : Except Fault (Expr α) :=
  match p.result? with
  | some e => .ok e
  | none => p.refuse (Token.finish position)

/-- A stream of tokens, from a state on. -/
def run [Quantity α] (p : Parsing α) (scanned : Scanned) : Except Fault (Expr α) := do
  let p ← scanned.tokens.foldlM step p
  match scanned.stop with
  | .finish position => p.conclude position
  | .unrecognized position c => .error (unrecognized position c)

end Parsing

/-- **The tree of a formula,** or the failure at its first token that no formula continues. -/
def parse [Quantity α] (formula : String) : Except Fault (Expr α) :=
  Parsing.start.run (Scanned.ofText formula)

end MetricQuery
