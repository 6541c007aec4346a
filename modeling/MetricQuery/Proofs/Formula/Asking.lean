/-
  MetricQuery.Proofs.Formula.Asking
  ─────────────────────────────────
  **WHAT A FORMULA ASKS FOR, AND WHEN IT STOPS.**

  The value of a formula and the list of its variables are two recursions over
  the same tree.  They agree on more than the variables: in the monad of any
  resolver, evaluating a formula has the effects of asking for its variables one
  by one, from left to right, and no others.  A resolver that writes down what
  it is asked therefore tells where an evaluation stopped: at the first variable
  without a value, or nowhere.

    • `evaluateWith_effects` — evaluating is asking for the variables, in any monad,
    • `Enquiry`, `ask`       — a resolver that keeps a record of the questions,
    • `Answered`             — variables that all have a value when asked for in order,
    • `conduct_askAll_eq_ok_iff`, `conduct_askAll_eq_error_iff` — both ends of asking,
    • `interview_iff`        — what a formula asks for, and what it returns.
-/
import Mathlib.Data.List.Basic
import MetricQuery.Formula.Evaluate

namespace MetricQuery

variable {α : Type}

/-! ## §1. Evaluating is asking. -/

/-- **Evaluating a formula has the effects of asking for its variables,** once per occurrence and
from left to right.  The numbers, the operators and the signs have none. -/
theorem Expr.evaluateWith_effects [Quantity α] {m : Type → Type} [Monad m] [LawfulMonad m]
    (pad : Padding α) (resolve : Options → m (Value α)) (e : Expr α) :
    (fun _ => ()) <$> e.evaluateWith pad resolve =
      forM e.occurrences fun o => (fun _ => ()) <$> resolve o := by
  induction e with
  | number x => simp [evaluateWith, occurrences]
  | «variable» options => simp [evaluateWith, occurrences]
  | binary left op right ihl ihr =>
      have hboth : (fun _ => ()) <$> (binary left op right).evaluateWith pad resolve =
          ((fun _ => ()) <$> left.evaluateWith pad resolve) >>= fun _ =>
            (fun _ => ()) <$> right.evaluateWith pad resolve := by
        simp [evaluateWith]
      rw [hboth, ihl, ihr]
      exact (List.forM_append ..).symm
  | unary sign operand ih =>
      show _ = forM operand.occurrences _
      rw [← ih]
      simp [evaluateWith]

/-! ## §2. A record of the questions. -/

/-- Computations that ask for variables, may fail, and keep a record of what they asked for. -/
abbrev Enquiry : Type → Type :=
  ExceptT Fault (StateM (List Options))

/-- The outcome of an enquiry and its record, where `asked` has been asked for before. -/
def Enquiry.conduct {β : Type} (x : Enquiry β) (asked : List Options) :
    Except Fault β × List Options :=
  x.run.run asked

namespace Enquiry

variable {β γ : Type} {asked : List Options}

theorem conduct_bind (x : Enquiry β) (f : β → Enquiry γ) :
    conduct (x >>= f) asked =
      match x.conduct asked with
      | (.ok b, asked) => (f b).conduct asked
      | (.error fault, asked) => (.error fault, asked) := by
  show (ExceptT.bindCont f (x.conduct asked).1).run (x.conduct asked).2 = _
  cases x.conduct asked with
  | mk outcome log => cases outcome <;> rfl

/-- Forgetting the answer changes neither the record nor the failure. -/
theorem conduct_forget (x : Enquiry β) :
    conduct ((fun _ => ()) <$> x) asked =
      ((x.conduct asked).1.map fun _ => (), (x.conduct asked).2) := by
  rw [← bind_pure_comp, conduct_bind]
  cases x.conduct asked with
  | mk outcome log => cases outcome <;> rfl

/-- Enquiries whose outcomes do not depend on what was asked before are joined as their outcomes
are. -/
theorem fst_conduct_bind {x : Enquiry β} {y : Except Fault β} {f : β → Enquiry γ}
    {g : β → Except Fault γ} (hx : ∀ asked, (x.conduct asked).1 = y)
    (hf : ∀ b asked, ((f b).conduct asked).1 = g b) (asked : List Options) :
    (conduct (x >>= f) asked).1 = y >>= g := by
  rw [conduct_bind, ← hx asked]
  cases x.conduct asked with
  | mk outcome log =>
      cases outcome with
      | error fault => rfl
      | ok b => exact hf b log

end Enquiry

/-- Asks for a variable and writes it down.  What `resolve` answers may depend on everything that
was asked before. -/
def ask (resolve : List Options → Options → Except Fault (Value α)) (o : Options) :
    Enquiry (Value α) := do
  let asked ← get
  set (asked ++ [o])
  MonadExcept.ofExcept (resolve asked o)

/-- Asks for each of a list of variables and forgets the answers. -/
def askAll (resolve : List Options → Options → Except Fault (Value α)) (os : List Options) :
    Enquiry Unit :=
  forM os fun o => (fun _ => ()) <$> ask resolve o

/-- All these variables have a value when they are asked for in order, after the variables
`asked`. -/
def Answered (resolve : List Options → Options → Except Fault (Value α))
    (asked os : List Options) : Prop :=
  ∀ before o after, os = before ++ o :: after → ∃ v, resolve (asked ++ before) o = .ok v

section Asking

variable {resolve : List Options → Options → Except Fault (Value α)} {asked os log : List Options}
  {o : Options} {fault : Fault}

theorem conduct_ask : (ask resolve o).conduct asked = (resolve asked o, asked ++ [o]) := by
  unfold ask
  show Enquiry.conduct (MonadExcept.ofExcept (resolve asked o)) (asked ++ [o]) = _
  cases resolve asked o <;> rfl

/-- **One more variable.**  Asking stops where it has no value. -/
theorem conduct_askAll_cons :
    (askAll resolve (o :: os)).conduct asked =
      match resolve asked o with
      | .ok _ => (askAll resolve os).conduct (asked ++ [o])
      | .error fault => (.error fault, asked ++ [o]) := by
  unfold askAll
  rw [List.forM_cons, Enquiry.conduct_bind, Enquiry.conduct_forget, conduct_ask]
  cases resolve asked o <;> rfl

theorem answered_nil : Answered resolve asked [] := by
  intro before o after h
  cases before <;> cases h

theorem answered_cons :
    Answered resolve asked (o :: os) ↔
      (∃ v, resolve asked o = .ok v) ∧ Answered resolve (asked ++ [o]) os := by
  constructor
  · intro h
    refine ⟨by simpa using h [] o os rfl, ?_⟩
    intro before x after hsplit
    have hx := h (o :: before) x after (by rw [hsplit]; rfl)
    rwa [List.append_cons] at hx
  · intro h before x after hsplit
    obtain ⟨ho, hos⟩ := h
    cases before with
    | nil =>
        obtain ⟨rfl, -⟩ := List.cons.inj hsplit
        simpa using ho
    | cons y before =>
        obtain ⟨rfl, hrest⟩ := List.cons.inj hsplit
        have hx := hos before x after hrest
        rwa [← List.append_cons] at hx

/-- **Asking does not fail** if and only if all variables are answered; all of them have been asked
for then. -/
theorem conduct_askAll_eq_ok_iff :
    (askAll resolve os).conduct asked = (.ok (), log) ↔
      Answered resolve asked os ∧ log = asked ++ os := by
  induction os generalizing asked with
  | nil =>
      show (Except.ok (), asked) = (Except.ok (), log) ↔ _
      simp [answered_nil, eq_comm]
  | cons o os ih =>
      rw [conduct_askAll_cons, answered_cons]
      cases ho : resolve asked o with
      | error fault => simp
      | ok v => simp [ih]

/-- **Asking fails at the first variable without a value,** and asks for nothing after it. -/
theorem conduct_askAll_eq_error_iff :
    (askAll resolve os).conduct asked = (.error fault, log) ↔
      ∃ before o after, os = before ++ o :: after ∧ Answered resolve asked before ∧
        resolve (asked ++ before) o = .error fault ∧ log = asked ++ before ++ [o] := by
  induction os generalizing asked with
  | nil =>
      constructor
      · intro h
        cases h
      · intro h
        obtain ⟨before, o, after, hsplit, -⟩ := h
        cases before <;> cases hsplit
  | cons x os ih =>
      rw [conduct_askAll_cons]
      constructor
      · intro h
        cases hx : resolve asked x with
        | error other =>
            rw [hx] at h
            cases h
            exact ⟨[], x, os, rfl, answered_nil, by simpa using hx, by simp⟩
        | ok v =>
            rw [hx] at h
            obtain ⟨before, o, after, hsplit, hbefore, ho, hlog⟩ := ih.1 h
            refine ⟨x :: before, o, after, by rw [hsplit]; rfl,
              answered_cons.2 ⟨⟨v, hx⟩, hbefore⟩, ?_, ?_⟩
            · rwa [List.append_cons]
            · rw [hlog, List.append_cons asked x before]
      · intro h
        obtain ⟨before, o, after, hsplit, hbefore, ho, hlog⟩ := h
        cases before with
        | nil =>
            obtain ⟨rfl, -⟩ := List.cons.inj hsplit
            rw [List.append_nil] at ho hlog
            rw [ho, hlog]
        | cons y before =>
            obtain ⟨rfl, hrest⟩ := List.cons.inj hsplit
            obtain ⟨⟨v, hx⟩, hbefore⟩ := answered_cons.1 hbefore
            rw [List.append_cons asked x before] at ho hlog
            rw [hx]
            exact ih.2 ⟨before, o, after, hrest, hbefore, ho, hlog⟩

end Asking

/-! ## §3. Interviews. -/

namespace Expr

variable [Quantity α]

/-- **What a formula evaluates to and everything that it asked for,** in the order of the
questions. -/
def interview (pad : Padding α) (resolve : List Options → Options → Except Fault (Value α))
    (e : Expr α) : Except Fault (Value α) × List Options :=
  (e.evaluateWith pad (ask resolve)).conduct []

/-- An interview fails as asking for all variables does, and keeps the same record. -/
theorem conduct_askAll_occurrences (pad : Padding α)
    (resolve : List Options → Options → Except Fault (Value α)) (e : Expr α) :
    (askAll resolve e.occurrences).conduct [] =
      ((e.interview pad resolve).1.map fun _ => (), (e.interview pad resolve).2) := by
  unfold askAll
  rw [← evaluateWith_effects pad (ask resolve) e, Enquiry.conduct_forget]
  rfl

/-- Where the answers do not depend on what was asked before, writing the questions down changes
nothing. -/
theorem fst_conduct_evaluateWith (pad : Padding α) (resolve : Options → Except Fault (Value α))
    (e : Expr α) (asked : List Options) :
    ((e.evaluateWith pad (ask fun _ => resolve)).conduct asked).1 = e.evaluate pad resolve := by
  induction e generalizing asked with
  | number x => rfl
  | «variable» options =>
      show ((ask (fun _ => resolve) options).conduct asked).1 = _
      rw [conduct_ask]
      rfl
  | binary left op right ihl ihr =>
      refine Enquiry.fst_conduct_bind ihl ?_ asked
      exact fun l => Enquiry.fst_conduct_bind ihr fun r _ => rfl
  | unary sign operand ih => exact Enquiry.fst_conduct_bind ih (fun v _ => rfl) asked

/-- **An evaluation stops at the first variable without a value.**  It has a value if and only if
all variables are answered, and has asked for all of them then, from left to right and once per
occurrence.  It fails if and only if a variable without a value follows answered ones; it fails as
that variable does, and that is the last variable it has asked for. -/
theorem interview_iff (e : Expr α) (pad : Padding α)
    (resolve : List Options → Options → Except Fault (Value α)) :
    (∀ log, (∃ v, e.interview pad resolve = (.ok v, log)) ↔
      Answered resolve [] e.occurrences ∧ log = e.occurrences) ∧
    (∀ fault log, e.interview pad resolve = (.error fault, log) ↔
      ∃ before o after, e.occurrences = before ++ o :: after ∧ Answered resolve [] before ∧
        resolve before o = .error fault ∧ log = before ++ [o]) ∧
    ∀ plain, (e.interview pad fun _ => plain).1 = e.evaluate pad plain := by
  have hall := conduct_askAll_occurrences pad resolve e
  refine ⟨?_, ?_, fun plain => fst_conduct_evaluateWith pad plain e []⟩
  · intro log
    have hok : (askAll resolve e.occurrences).conduct [] = (.ok (), log) ↔ _ :=
      conduct_askAll_eq_ok_iff
    rw [List.nil_append, hall] at hok
    rw [← hok]
    cases e.interview pad resolve with
    | mk outcome record => cases outcome <;> simp [Except.map]
  · intro fault log
    have herror : (askAll resolve e.occurrences).conduct [] = (.error fault, log) ↔ _ :=
      conduct_askAll_eq_error_iff
    simp only [List.nil_append, hall] at herror
    rw [← herror]
    cases e.interview pad resolve with
    | mk outcome record => cases outcome <;> simp [Except.map]

end Expr
end MetricQuery
