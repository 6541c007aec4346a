/-
  MetricQuery.Formula.Token
  ─────────────────────────
  **THE TOKENS OF A FORMULA.**

  A token is a piece of the formula with its kind and its byte offset.  The end
  of the formula is a token of its own, without text.

    • `TokenKind.display` — the name of a kind,
    • `Token.display`     — a token's text as messages show it,
    • `Token.isOperator`  — the token is this operator.
-/
namespace MetricQuery

/-- The lexical category of a token. -/
inductive TokenKind where
  | number
  | identifier
  | operator
  | openBracket
  | closeBracket
  | openParen
  | closeParen
  | comma
  | equals
  | finish
  deriving DecidableEq, Repr

/-- The name of a category. -/
def TokenKind.display : TokenKind → String
  | number => "number"
  | identifier => "identifier"
  | operator => "operator"
  | openBracket => "'['"
  | closeBracket => "']'"
  | openParen => "'('"
  | closeParen => "')'"
  | comma => "','"
  | equals => "'='"
  | finish => "end of input"

/-- A piece of a formula. -/
structure Token where
  kind : TokenKind
  text : String
  /-- Bytes of the formula before the token. -/
  position : Nat
  deriving DecidableEq, Repr

namespace Token

/-- The token at the end of a formula. -/
def finish (position : Nat) : Token :=
  ⟨.finish, "", position⟩

/-- The text of a token, or a word for the end of the formula. -/
def display (t : Token) : String :=
  match t.kind with
  | .finish => "<end>"
  | _ => t.text

/-- The token is the operator `c`. -/
def isOperator (t : Token) (c : Char) : Bool :=
  t.kind == .operator && t.text == String.singleton c

end Token
end MetricQuery
