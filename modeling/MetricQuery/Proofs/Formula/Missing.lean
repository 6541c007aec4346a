/-
  MetricQuery.Proofs.Formula.Missing
  ──────────────────────────────────
  **WHAT IS MISSING STAYS MISSING.**

  Nothing brings back a number that is missing at an instant, and nothing makes
  a number of a division by zero: whatever part of a formula they stand in, the
  whole formula is missing at that instant.  A padding that is an ordinary
  number is no exception, since an operator looks at its operands before it
  computes with them.

    • `Value.MissingAt`, `Value.ZeroAt` — the padding or no value, and a zero, at an instant,
    • `missingAt_binary`, `missingAt_divide`, `missingAt_unary` — one operator,
    • `Expr.Inside`                     — the parts of a formula,
    • `missingAt_of_inside`             — a missing part makes the formula missing,
    • `missing_propagates`              — missing variables and divisions by zero.
-/
import MetricQuery.Proofs.Formula.Pointwise

namespace MetricQuery

variable {α : Type} [Quantity α] {pad : Padding α} {k : Int}

/-! ## §1. Missing numbers. -/

/-- A sign leaves what is missing missing. -/
theorem Sign.marks_elementwise {sign : Sign} {v : α} (h : pad.marks v = true) :
    pad.marks (sign.elementwise pad v) = true := by
  cases sign with
  | positive => exact h
  | negative =>
      unfold Sign.elementwise
      rw [if_pos h]
      exact Padding.marks_value pad

/-- **A number divided by zero is missing,** and so is one that was missing before. -/
theorem BinaryOp.elementwise_divide_of_zero {left right : α}
    (h : Quantity.equal right Quantity.zero = true) :
    BinaryOp.divide.elementwise pad left right = pad.value := by
  unfold BinaryOp.elementwise
  rw [if_pos h, ite_self]

namespace Value

/-- Missing at an instant: the padding there, or a series without a value there. -/
def MissingAt (pad : Padding α) (k : Int) : Value α → Prop
  | scalar v => pad.marks v = true
  | series s => ∀ v, s[k]? = some v → pad.marks v = true

/-- Zero at an instant.  A series without a value there is not zero there. -/
def ZeroAt (k : Int) : Value α → Prop
  | scalar v => Quantity.equal v Quantity.zero = true
  | series s => ∃ v, s[k]? = some v ∧ Quantity.equal v Quantity.zero = true

/-- **A value is missing at an instant** if and only if it stands for a missing number there. -/
theorem missingAt_iff {v : Value α} : v.MissingAt pad k ↔ pad.marks (v.reading pad k) = true := by
  cases v with
  | scalar x => exact Iff.rfl
  | series s =>
      show (∀ x, s[k]? = some x → _) ↔ pad.marks (s[k]?.getD pad.value) = true
      cases s[k]? with
      | none => simp [Padding.marks_value]
      | some x => simp

theorem equal_reading_of_zeroAt {v : Value α} (h : v.ZeroAt k) :
    Quantity.equal (v.reading pad k) Quantity.zero = true := by
  cases v with
  | scalar x => exact h
  | series s =>
      obtain ⟨x, hx, hzero⟩ := h
      show Quantity.equal (s[k]?.getD pad.value) _ = true
      rw [hx]
      exact hzero

/-- **A missing operand gives a missing result,** on either side of every operator. -/
theorem missingAt_binary {op : BinaryOp} {l r : Value α}
    (h : l.MissingAt pad k ∨ r.MissingAt pad k) : (Value.binary op pad l r).MissingAt pad k := by
  rw [missingAt_iff, missingAt_iff] at h
  rw [missingAt_iff, reading_binary, BinaryOp.elementwise_of_marks h]
  exact Padding.marks_value pad

/-- **A quotient is missing where its divisor is zero.** -/
theorem missingAt_divide {l r : Value α} (h : r.ZeroAt k) :
    (Value.binary .divide pad l r).MissingAt pad k := by
  rw [missingAt_iff, reading_binary,
    BinaryOp.elementwise_divide_of_zero (equal_reading_of_zeroAt h)]
  exact Padding.marks_value pad

/-- **A sign leaves what is missing missing.** -/
theorem missingAt_unary {sign : Sign} {v : Value α} (h : v.MissingAt pad k) :
    (Value.unary sign pad v).MissingAt pad k := by
  rw [missingAt_iff] at h
  rw [missingAt_iff, reading_unary]
  exact Sign.marks_elementwise h

end Value

namespace Expr

/-! ## §2. The parts of a formula. -/

/-- The formula `part` is the whole formula or stands somewhere inside it. -/
inductive Inside (part : Expr α) : Expr α → Prop
  | self : Inside part part
  | left {l : Expr α} (op : BinaryOp) (r : Expr α) (h : Inside part l) :
      Inside part (binary l op r)
  | right {r : Expr α} (l : Expr α) (op : BinaryOp) (h : Inside part r) :
      Inside part (binary l op r)
  | operand {e : Expr α} (sign : Sign) (h : Inside part e) : Inside part (unary sign e)

omit [Quantity α] in
/-- Every occurrence of a variable is a part of the formula. -/
theorem inside_of_mem_occurrences {e : Expr α} {o : Options} (h : o ∈ e.occurrences) :
    («variable» o).Inside e := by
  induction e with
  | number x => cases h
  | «variable» options =>
      cases List.mem_singleton.1 h
      exact .self
  | binary left op right ihl ihr =>
      cases List.mem_append.1 h with
      | inl hl => exact .left op right (ihl hl)
      | inr hr => exact .right left op (ihr hr)
  | unary sign operand ih => exact .operand sign (ih h)

variable {resolve : Options → Except Fault (Value α)}

/-- **A missing part makes the formula missing.**  One step up from the part to the formula is one
operator, which keeps missing what is missing. -/
theorem missingAt_of_inside {p e : Expr α} (hinside : p.Inside e) {v w : Value α}
    (hp : p.evaluate pad resolve = .ok w) (he : e.evaluate pad resolve = .ok v)
    (hw : w.MissingAt pad k) : v.MissingAt pad k := by
  induction hinside generalizing v with
  | self =>
      rw [hp] at he
      cases he
      exact hw
  | left op r _ ih =>
      obtain ⟨a, b, ha, -, heq⟩ := evaluate_binary_eq_ok_iff.1 he
      rw [heq]
      exact Value.missingAt_binary (Or.inl (ih ha))
  | right l op _ ih =>
      obtain ⟨a, b, -, hb, heq⟩ := evaluate_binary_eq_ok_iff.1 he
      rw [heq]
      exact Value.missingAt_binary (Or.inr (ih hb))
  | operand sign _ ih =>
      obtain ⟨a, ha, heq⟩ := evaluate_unary_eq_ok_iff.1 he
      rw [heq]
      exact Value.missingAt_unary (ih ha)

/-- Every part of a formula that has a value has one. -/
theorem exists_evaluate_of_inside {p e : Expr α} (hinside : p.Inside e) {v : Value α}
    (he : e.evaluate pad resolve = .ok v) : ∃ w, p.evaluate pad resolve = .ok w := by
  induction hinside generalizing v with
  | self => exact ⟨v, he⟩
  | left op r _ ih =>
      obtain ⟨a, b, ha, -, -⟩ := evaluate_binary_eq_ok_iff.1 he
      exact ih ha
  | right l op _ ih =>
      obtain ⟨a, b, -, hb, -⟩ := evaluate_binary_eq_ok_iff.1 he
      exact ih hb
  | operand sign _ ih =>
      obtain ⟨a, ha, -⟩ := evaluate_unary_eq_ok_iff.1 he
      exact ih ha

/-- A formula is missing where a quotient inside it divides by zero. -/
theorem missingAt_of_divide_inside {l r e : Expr α} (hinside : (binary l .divide r).Inside e)
    {v w : Value α} (hr : r.evaluate pad resolve = .ok w) (he : e.evaluate pad resolve = .ok v)
    (hw : w.ZeroAt k) : v.MissingAt pad k := by
  obtain ⟨q, hq⟩ := exists_evaluate_of_inside hinside he
  refine missingAt_of_inside hinside hq he ?_
  obtain ⟨a, b, -, hb, heq⟩ := evaluate_binary_eq_ok_iff.1 hq
  rw [hr] at hb
  cases hb
  rw [heq]
  exact Value.missingAt_divide hw

/-! ## §3. The whole formula. -/

/-- **Missing data and divisions by zero reach the top.**  Where every variable has a value, so has
the formula.  At an instant where one occurrence of a variable is missing, or where the divisor of
one quotient anywhere in the formula is zero, that value is missing. -/
theorem missing_propagates (e : Expr α) (pad : Padding α)
    (resolve : Options → Except Fault (Value α))
    (h : ∀ o ∈ e.occurrences, ∃ v, resolve o = .ok v) :
    ∃ v, e.evaluate pad resolve = .ok v ∧
      ∀ k, ((∃ o ∈ e.occurrences, ∃ w, resolve o = .ok w ∧ w.MissingAt pad k) ∨
          (∃ l r w, (binary l .divide r).Inside e ∧ r.evaluate pad resolve = .ok w ∧
            w.ZeroAt k)) →
        v.MissingAt pad k := by
  obtain ⟨v, hv⟩ := exists_evaluate_eq_ok pad h
  refine ⟨v, hv, ?_⟩
  intro k hk
  cases hk with
  | inl hvariable =>
      obtain ⟨o, ho, w, hw, hmissing⟩ := hvariable
      exact missingAt_of_inside (inside_of_mem_occurrences ho) hw hv hmissing
  | inr hdivide =>
      obtain ⟨l, r, w, hinside, hr, hzero⟩ := hdivide
      exact missingAt_of_divide_inside hinside hr hv hzero

/-- A quotient of two variables below a sign and a sum. -/
def sixLessQuotient : Expr ℚ :=
  binary (number 6) .add (unary .negative (binary («variable» {("sid", "1")}) .divide
    (binary («variable» {("sid", "2")}) .subtract (number 3))))

/-- Two series, by the `sid` of a variable: the second has no value at 180. -/
def fourInstants (options : Options) : Except Fault (Value ℚ) :=
  .ok (.series (.ofPoints (if options["sid"]? = some "1" then
    [(0, 5), (60, -1), (120, 4), (180, 8)] else [(0, 3), (60, 5), (120, 4)])))

/-- With the padding −1, the divisor is zero at 0, one series holds the padding at 60, and the other
has no value at 180.  At 120 there is a number. -/
theorem missing_propagates_fourInstants :
    ∃ s : Series ℚ, sixLessQuotient.evaluate ⟨-1⟩ fourInstants = .ok (.series s) ∧
      s[(0 : Int)]? = some (-1) ∧ s[(60 : Int)]? = some (-1) ∧ s[(120 : Int)]? = some 2 ∧
      s[(180 : Int)]? = some (-1) := by
  obtain ⟨v, hv, hmissing⟩ :=
    missing_propagates sixLessQuotient ⟨-1⟩ fourInstants fun o _ => ⟨_, rfl⟩
  have hkeys : ∀ k ∈ Series.ofPoints [(0, (5 : ℚ)), (60, -1), (120, 4), (180, 8)], v.HasKey k :=
    fun k hk => (hasKey_evaluate hv).2 ⟨{("sid", "1")}, List.mem_cons_self, _, rfl, hk⟩
  cases v with
  | scalar x => exact (hkeys 0 (by decide +kernel)).elim
  | series s =>
      have hpadding : ∀ k ∈ s, Value.MissingAt ⟨-1⟩ k (.series s) → s[k]? = some (-1) := by
        intro k hk hmissing
        have hmarks := hmissing s[k] (Std.ExtTreeMap.getElem?_eq_some_getElem hk)
        rw [marks_rational] at hmarks
        rw [Std.ExtTreeMap.getElem?_eq_some_getElem hk, of_decide_eq_true hmarks]
      refine ⟨s, hv, ?_, ?_, ?_, ?_⟩
      · refine hpadding 0 (hkeys 0 (by decide +kernel)) (hmissing 0 (Or.inr ⟨_, _, _,
          .right _ _ (.operand _ .self), rfl, 0, ?_, ?_⟩)) <;> decide +kernel
      · refine hpadding 60 (hkeys 60 (by decide +kernel)) (hmissing 60 (Or.inl
          ⟨{("sid", "1")}, List.mem_cons_self, _, rfl, ?_⟩))
        intro x hx
        have heq : some x = some (-1) := hx.symm.trans (by decide +kernel)
        cases heq
        exact Padding.marks_value _
      · have hfrozen := evaluate_frozen 120 hv
        have hnumber : ((sixLessQuotient.frozen fourInstants ⟨-1⟩ 120).evaluate ⟨-1⟩
            fourInstants).toOption.bind Value.scalar? = some 2 := by decide +kernel
        have hkey : (120 : Int) ∈ s := hkeys 120 (by decide +kernel)
        rw [hfrozen] at hnumber
        rw [← hnumber]
        show _ = some (s[(120 : Int)]?.getD (-1))
        rw [Std.ExtTreeMap.getElem?_eq_some_getElem hkey]
        rfl
      · refine hpadding 180 (hkeys 180 (by decide +kernel)) (hmissing 180 (Or.inl
          ⟨{("sid", "2")}, List.mem_cons_of_mem _ List.mem_cons_self, _, rfl, ?_⟩))
        intro x hx
        have heq : some x = none := hx.symm.trans (by decide +kernel)
        cases heq

end Expr
end MetricQuery
