/-
  MetricQuery.Formula.Evaluate
  ────────────────────────────
  **THE VALUE OF A FORMULA.**

  Variables are handed to a resolver, from left to right and once per
  occurrence; everything else is arithmetic.  The resolver may fail, and it may
  keep a record of what it was asked: it runs in any monad.

    • `Expr.evaluateWith` — the value, in the monad of the resolver,
    • `Expr.evaluate`     — the same with a resolver that answers or fails,
    • `evaluate_binary_eq_ok_iff`, `evaluate_unary_eq_ok_iff` — what a value is made of.
-/
import MetricQuery.Fault
import MetricQuery.Formula.Arithmetic

namespace MetricQuery.Expr

variable {α : Type} [Quantity α]

/-- **The value of a formula** whose variables have the values that `resolve` finds. -/
def evaluateWith {m : Type → Type} [Monad m] (pad : Padding α)
    (resolve : Options → m (Value α)) : Expr α → m (Value α)
  | number v => pure (.scalar v)
  | «variable» options => resolve options
  | binary left op right => do
      let l ← evaluateWith pad resolve left
      let r ← evaluateWith pad resolve right
      pure (Value.binary op pad l r)
  | unary sign operand => do
      let v ← evaluateWith pad resolve operand
      pure (Value.unary sign pad v)

/-- The value of a formula, or the failure of its first variable without a value. -/
def evaluate (pad : Padding α) (resolve : Options → Except Fault (Value α)) (e : Expr α) :
    Except Fault (Value α) :=
  e.evaluateWith pad resolve

variable {pad : Padding α} {resolve : Options → Except Fault (Value α)}

theorem evaluate_number (v : α) : (number v).evaluate pad resolve = .ok (.scalar v) := rfl

theorem evaluate_variable (options : Options) :
    («variable» options).evaluate pad resolve = resolve options := rfl

/-- **Joined formulas have a value** if and only if both have one. -/
theorem evaluate_binary_eq_ok_iff {left right : Expr α} {op : BinaryOp} {v : Value α} :
    (binary left op right).evaluate pad resolve = .ok v ↔
      ∃ l r, left.evaluate pad resolve = .ok l ∧ right.evaluate pad resolve = .ok r ∧
        v = Value.binary op pad l r := by
  show (left.evaluate pad resolve >>= fun l => right.evaluate pad resolve >>= fun r =>
    Except.ok (Value.binary op pad l r)) = .ok v ↔ _
  cases left.evaluate pad resolve with
  | error fault => simp [bind, Except.bind]
  | ok l =>
      cases right.evaluate pad resolve with
      | error fault => simp [bind, Except.bind]
      | ok r => simp [bind, Except.bind, eq_comm]

/-- **A signed formula has a value** if and only if the formula has one. -/
theorem evaluate_unary_eq_ok_iff {sign : Sign} {operand : Expr α} {v : Value α} :
    (unary sign operand).evaluate pad resolve = .ok v ↔
      ∃ w, operand.evaluate pad resolve = .ok w ∧ v = Value.unary sign pad w := by
  show (operand.evaluate pad resolve >>= fun w => Except.ok (Value.unary sign pad w)) = .ok v ↔ _
  cases operand.evaluate pad resolve with
  | error fault => simp [bind, Except.bind]
  | ok w => simp [bind, Except.bind, eq_comm]

end MetricQuery.Expr
