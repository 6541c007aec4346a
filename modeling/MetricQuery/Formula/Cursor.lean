/-
  MetricQuery.Formula.Cursor
  ──────────────────────────
  **READING TOKENS ONE BY ONE, WITH ONE TOKEN OF PUSHBACK.**

  A cursor stands between two tokens.  Advancing yields the next token;
  stepping back makes the next advance yield the last token once more.  A
  character that begins no token leaves the cursor at that character.

    • `Cursor.ofText`   — at the beginning of a formula,
    • `Cursor.advance`  — the next token, or the failure,
    • `Cursor.stepBack` — the last token is due again; at most one is.
-/
import MetricQuery.Formula.Scan

namespace MetricQuery

/-- A place in a formula, the last token that was yielded, and whether it is due again. -/
structure Cursor where
  position : Nat
  rest : List Char
  last : Option Token
  reverted : Bool

namespace Cursor

/-- The beginning of a formula. -/
def ofText (formula : String) : Cursor :=
  ⟨0, formula.toList, none, false⟩

/-- The token after the place of the cursor.  The end token is yielded again and again. -/
def scanNext (c : Cursor) : Except Fault Token × Cursor :=
  match scan c.position c.rest with
  | .token t rest => (.ok t, ⟨t.stopPosition, rest, some t, false⟩)
  | .stop (.finish position) rest =>
      (.ok (Token.finish position), ⟨position, rest, some (Token.finish position), false⟩)
  | .stop (.unrecognized position ch) rest =>
      (.error (unrecognized position ch), { c with position, rest })

/-- The next token, or the last one if it is due again. -/
def advance (c : Cursor) : Except Fault Token × Cursor :=
  match c.reverted, c.last with
  | true, some t => (.ok t, { c with reverted := false })
  | _, _ => c.scanNext

/-- Makes the last token due again.  Before the first token this changes nothing. -/
def stepBack (c : Cursor) : Cursor :=
  { c with reverted := c.last.isSome }

end Cursor
end MetricQuery
