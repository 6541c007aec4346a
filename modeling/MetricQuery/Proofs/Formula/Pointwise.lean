/-
  MetricQuery.Proofs.Formula.Pointwise
  ────────────────────────────────────
  **FORMULAS OVER SERIES, ONE INSTANT AT A TIME.**

  A formula never works key by key: numbers are spread over the keys of the
  series that they meet, and two series meet at the keys of either.  Still its
  value can be read at one instant alone.  There a number stands for itself, a
  series for its value or the padding, and every operator is the operator on
  the two numbers, since what lacks a key is missing and stays missing.

    • `Value.reading`          — the number that a value stands for at an instant,
    • `reading_binary`, `reading_unary` — operators on values are operators on readings,
    • `Expr.frozen`            — a formula whose series are read at an instant,
    • `evaluate_frozen`        — the value of the frozen formula is the reading of the value,
    • `Value.Alike`, `evaluate_alike` — a formula reads alike where its variables do,
    • `Value.OnGrid`, `onGrid_evaluate` — a formula stays on the grid of its variables,
    • `evaluate_pointwise`     — shape, keys and values of what a formula evaluates to.
-/
import Mathlib.Data.Set.Defs
import MetricQuery.Formula.Evaluate
import MetricQuery.Proofs.Rational

namespace MetricQuery

variable {α : Type} [Quantity α] {pad : Padding α}

/-! ## §1. Readings. -/

/-- **Two series meet at every instant,** where the one without a value is missing. -/
theorem Series.getD_pairwise (op : BinaryOp) (pad : Padding α) (left right : Series α) (k : Int) :
    (left.pairwise op pad right)[k]?.getD pad.value =
      op.elementwise pad (left[k]?.getD pad.value) (right[k]?.getD pad.value) := by
  rw [Series.getElem?_pairwise]
  by_cases h : k ∈ left ∨ k ∈ right
  · rw [if_pos h]
    rfl
  · -- Neither has a value, and padding with padding is padding.
    rw [if_neg h]
    have hleft : left[k]? = none := Std.ExtTreeMap.getElem?_eq_none fun hk => h (Or.inl hk)
    rw [hleft]
    exact (BinaryOp.elementwise_of_marks (Or.inl (Padding.marks_value pad))).symm

namespace Value

/-- The number that a value stands for at an instant. -/
def reading (pad : Padding α) (k : Int) : Value α → α
  | scalar v => v
  | series s => s[k]?.getD pad.value

/-- The value is a series with this key. -/
def HasKey (k : Int) : Value α → Prop
  | scalar _ => False
  | series s => k ∈ s

/-- A number spread over the keys of a series is padding elsewhere, and so is what it meets. -/
theorem elementwise_broadcast (op : BinaryOp) (pad : Padding α) (s : Series α) (v : α) (k : Int) :
    op.elementwise pad (s[k]?.getD pad.value) ((s.broadcast v)[k]?.getD pad.value) =
        op.elementwise pad (s[k]?.getD pad.value) v ∧
      op.elementwise pad ((s.broadcast v)[k]?.getD pad.value) (s[k]?.getD pad.value) =
        op.elementwise pad v (s[k]?.getD pad.value) := by
  rw [Series.getElem?_broadcast]
  have hpad := Padding.marks_value pad
  cases s[k]? with
  | some w => exact ⟨rfl, rfl⟩
  | none =>
      constructor
      · show op.elementwise pad pad.value pad.value = op.elementwise pad pad.value v
        rw [BinaryOp.elementwise_of_marks (Or.inl hpad),
          BinaryOp.elementwise_of_marks (Or.inl hpad)]
      · show op.elementwise pad pad.value pad.value = op.elementwise pad v pad.value
        rw [BinaryOp.elementwise_of_marks (Or.inr hpad),
          BinaryOp.elementwise_of_marks (Or.inr hpad)]

/-- **Operators on values are operators on their readings.** -/
theorem reading_binary (op : BinaryOp) (l r : Value α) (k : Int) :
    (Value.binary op pad l r).reading pad k =
      op.elementwise pad (l.reading pad k) (r.reading pad k) := by
  cases l with
  | scalar v =>
      cases r with
      | scalar w => rfl
      | series t =>
          show ((t.broadcast v).pairwise op pad t)[k]?.getD pad.value = _
          rw [Series.getD_pairwise]
          exact (elementwise_broadcast op pad t v k).2
  | series s =>
      cases r with
      | scalar w =>
          show (s.pairwise op pad (s.broadcast w))[k]?.getD pad.value = _
          rw [Series.getD_pairwise]
          exact (elementwise_broadcast op pad s w k).1
      | series t => exact Series.getD_pairwise op pad s t k

/-- **Signs on values are signs on their readings.** -/
theorem reading_unary (sign : Sign) (v : Value α) (k : Int) :
    (Value.unary sign pad v).reading pad k = sign.elementwise pad (v.reading pad k) := by
  cases v with
  | scalar v => rfl
  | series s =>
      show (s.map fun _ v => sign.elementwise pad v)[k]?.getD pad.value = _
      rw [Std.ExtTreeMap.getElem?_map]
      cases h : s[k]? with
      | some w => simp [reading, h]
      | none =>
          -- A sign leaves what is missing missing.
          have hpad := Padding.marks_value pad
          cases sign with
          | positive => simp [reading, h, Sign.elementwise]
          | negative => simp [reading, h, Sign.elementwise, hpad]

/-- Two outcomes are alike at the instants of a set: they are the same failure, or values with the
same readings there. -/
def Alike (pad : Padding α) (instants : Set Int) :
    Except Fault (Value α) → Except Fault (Value α) → Prop
  | .ok v, .ok w => ∀ k ∈ instants, v.reading pad k = w.reading pad k
  | .error fault, .error fault' => fault = fault'
  | _, _ => False

omit [Quantity α] in
/-- Alike outcomes go on alike. -/
theorem Alike.bind {instants : Set Int} {x y : Except Fault (Value α)}
    {f g : Value α → Except Fault (Value α)} (h : Alike pad instants x y)
    (hfg : ∀ v w : Value α, (∀ k ∈ instants, v.reading pad k = w.reading pad k) →
      Alike pad instants (f v) (g w)) : Alike pad instants (x.bind f) (y.bind g) := by
  match x, y, h with
  | .ok v, .ok w, h => exact hfg v w h
  | .error fault, .error fault', h => exact h

/-! ## §2. Keys. -/

theorem hasKey_binary (op : BinaryOp) (l r : Value α) (k : Int) :
    (Value.binary op pad l r).HasKey k ↔ l.HasKey k ∨ r.HasKey k := by
  have hmem : ∀ s t : Series α, k ∈ s.pairwise op pad t ↔ k ∈ s ∨ k ∈ t := by
    intro s t
    rw [← Std.ExtTreeMap.isSome_getElem?_iff_mem, Series.getElem?_pairwise]
    split <;> simp_all
  have hbroadcast : ∀ (s : Series α) (v : α), k ∈ s.broadcast v ↔ k ∈ s :=
    fun s v => Std.ExtTreeMap.mem_map
  cases l with
  | scalar v =>
      cases r with
      | scalar w => simp [Value.binary, HasKey]
      | series t => simp [Value.binary, HasKey, hmem, hbroadcast]
  | series s =>
      cases r with
      | scalar w => simp [Value.binary, HasKey, hmem, hbroadcast]
      | series t => simp [Value.binary, HasKey, hmem]

theorem hasKey_unary (sign : Sign) (v : Value α) (k : Int) :
    (Value.unary sign pad v).HasKey k ↔ v.HasKey k := by
  cases v with
  | scalar v => exact Iff.rfl
  | series s => exact Std.ExtTreeMap.mem_map

/-- The value is a number, or a series whose keys are those of a grid. -/
def OnGrid (grid : List Int) : Value α → Prop
  | scalar _ => True
  | series s => ∀ k : Int, k ∈ s ↔ k ∈ grid

/-- **Operators stay on a grid:** a number takes the keys of the series that it meets, and the keys
of two series are the same. -/
theorem OnGrid.binary (op : BinaryOp) {grid : List Int} {l r : Value α} (hl : l.OnGrid grid)
    (hr : r.OnGrid grid) : (Value.binary op pad l r).OnGrid grid := by
  cases l with
  | scalar v =>
      cases r with
      | scalar w => trivial
      | series t =>
          intro k
          exact (hasKey_binary op (.scalar v) (.series t) k).trans
            ((or_iff_right not_false).trans (hr k))
  | series s =>
      cases r with
      | scalar w =>
          intro k
          exact (hasKey_binary op (.series s) (.scalar w) k).trans
            ((or_iff_left not_false).trans (hl k))
      | series t =>
          intro k
          exact (hasKey_binary op (.series s) (.series t) k).trans
            ((or_congr (hl k) (hr k)).trans or_self_iff)

/-- **Signs stay on a grid.** -/
theorem OnGrid.unary (sign : Sign) {grid : List Int} {v : Value α} (h : v.OnGrid grid) :
    (Value.unary sign pad v).OnGrid grid := by
  cases v with
  | scalar x => trivial
  | series s =>
      intro k
      exact (hasKey_unary sign (.series s) k).trans (h k)

theorem series?_binary_eq_none_iff (op : BinaryOp) (l r : Value α) :
    (Value.binary op pad l r).series? = none ↔ l.series? = none ∧ r.series? = none := by
  cases l <;> cases r <;> simp [Value.binary, series?]

theorem series?_unary_eq_none_iff (sign : Sign) (v : Value α) :
    (Value.unary sign pad v).series? = none ↔ v.series? = none := by
  cases v <;> simp [Value.unary, series?]

end Value

namespace Expr

/-! ## §3. Frozen formulas. -/

/-- The formula with numbers in place of the variables for which `f` has one. -/
def substitute (f : Options → Option α) : Expr α → Expr α
  | number v => number v
  | «variable» options =>
      match f options with
      | some v => number v
      | none => «variable» options
  | binary left op right => binary (left.substitute f) op (right.substitute f)
  | unary sign operand => unary sign (operand.substitute f)

/-- What a variable that stands for a series stands for at an instant. -/
def seriesReading (resolve : Options → Except Fault (Value α)) (pad : Padding α) (k : Int)
    (options : Options) : Option α :=
  match resolve options with
  | .ok (.series s) => some (s[k]?.getD pad.value)
  | _ => none

/-- The formula with each variable that stands for a series replaced by the value of the series at
an instant, or by the padding where it has none. -/
def frozen (resolve : Options → Except Fault (Value α)) (pad : Padding α) (k : Int) (e : Expr α) :
    Expr α :=
  e.substitute (seriesReading resolve pad k)

variable {resolve : Options → Except Fault (Value α)}

/-- **A frozen formula has the reading of the formula's value.** -/
theorem evaluate_frozen (k : Int) {e : Expr α} {v : Value α}
    (h : e.evaluate pad resolve = .ok v) :
    (e.frozen resolve pad k).evaluate pad resolve = .ok (.scalar (v.reading pad k)) := by
  induction e generalizing v with
  | number x =>
      rw [evaluate_number] at h
      cases h
      rfl
  | «variable» options =>
      rw [evaluate_variable] at h
      unfold frozen substitute seriesReading
      rw [h]
      cases v with
      | scalar x => exact h
      | series s => rfl
  | binary left op right ihl ihr =>
      obtain ⟨l, r, hl, hr, heq⟩ := evaluate_binary_eq_ok_iff.1 h
      rw [heq, Value.reading_binary]
      exact evaluate_binary_eq_ok_iff.2 ⟨_, _, ihl hl, ihr hr, rfl⟩
  | unary sign operand ih =>
      obtain ⟨w, hw, heq⟩ := evaluate_unary_eq_ok_iff.1 h
      rw [heq, Value.reading_unary]
      exact evaluate_unary_eq_ok_iff.2 ⟨_, ih hw, rfl⟩

/-- **A formula reads alike where its variables do,** and it fails alike. -/
theorem evaluate_alike {instants : Set Int} {resolve' : Options → Except Fault (Value α)}
    {e : Expr α}
    (h : ∀ o ∈ e.occurrences, Value.Alike pad instants (resolve o) (resolve' o)) :
    Value.Alike pad instants (e.evaluate pad resolve) (e.evaluate pad resolve') := by
  induction e with
  | number x => exact fun k _ => rfl
  | «variable» options => exact h options (List.mem_singleton.2 rfl)
  | binary left op right ihl ihr =>
      refine (ihl fun o ho => h o (List.mem_append_left _ ho)).bind ?_
      intro l l' hl
      refine (ihr fun o ho => h o (List.mem_append_right _ ho)).bind ?_
      intro r r' hr k hk
      rw [Value.reading_binary, Value.reading_binary, hl k hk, hr k hk]
  | unary sign operand ih =>
      refine (ih h).bind ?_
      intro v v' hv k hk
      rw [Value.reading_unary, Value.reading_unary, hv k hk]

/-! ## §4. The value of a formula. -/

/-- Where every variable has a value, so has the formula. -/
theorem exists_evaluate_eq_ok (pad : Padding α) {e : Expr α}
    (h : ∀ o ∈ e.occurrences, ∃ v, resolve o = .ok v) :
    ∃ v, e.evaluate pad resolve = .ok v := by
  induction e with
  | number x => exact ⟨_, rfl⟩
  | «variable» options => exact h options (List.mem_singleton.2 rfl)
  | binary left op right ihl ihr =>
      obtain ⟨l, hl⟩ := ihl fun o ho => h o (List.mem_append_left _ ho)
      obtain ⟨r, hr⟩ := ihr fun o ho => h o (List.mem_append_right _ ho)
      exact ⟨_, evaluate_binary_eq_ok_iff.2 ⟨l, r, hl, hr, rfl⟩⟩
  | unary sign operand ih =>
      obtain ⟨w, hw⟩ := ih h
      exact ⟨_, evaluate_unary_eq_ok_iff.2 ⟨w, hw, rfl⟩⟩

/-- **The keys of a formula's value** are those of the series that its variables stand for. -/
theorem hasKey_evaluate {k : Int} {e : Expr α} {v : Value α}
    (h : e.evaluate pad resolve = .ok v) :
    v.HasKey k ↔ ∃ o ∈ e.occurrences, ∃ s, resolve o = .ok (.series s) ∧ k ∈ s := by
  induction e generalizing v with
  | number x =>
      rw [evaluate_number] at h
      cases h
      simp [Value.HasKey, occurrences]
  | «variable» options =>
      rw [evaluate_variable] at h
      cases v <;> simp [Value.HasKey, occurrences, h]
  | binary left op right ihl ihr =>
      obtain ⟨l, r, hl, hr, heq⟩ := evaluate_binary_eq_ok_iff.1 h
      rw [heq, Value.hasKey_binary, ihl hl, ihr hr]
      simp only [occurrences, List.mem_append, or_and_right, exists_or]
  | unary sign operand ih =>
      obtain ⟨w, hw, heq⟩ := evaluate_unary_eq_ok_iff.1 h
      rw [heq, Value.hasKey_unary]
      exact ih hw

/-- **A formula stays on the grid** on which all its variables are. -/
theorem onGrid_evaluate {grid : List Int}
    (hresolve : ∀ options v, resolve options = .ok v → v.OnGrid grid) {e : Expr α} {v : Value α}
    (h : e.evaluate pad resolve = .ok v) : v.OnGrid grid := by
  induction e generalizing v with
  | number x =>
      rw [evaluate_number] at h
      cases h
      trivial
  | «variable» options => exact hresolve options v h
  | binary left op right ihl ihr =>
      obtain ⟨l, r, hl, hr, heq⟩ := evaluate_binary_eq_ok_iff.1 h
      rw [heq]
      exact (ihl hl).binary op (ihr hr)
  | unary sign operand ih =>
      obtain ⟨w, hw, heq⟩ := evaluate_unary_eq_ok_iff.1 h
      rw [heq]
      exact (ih hw).unary sign

/-- **A formula's value is a number** if and only if none of its variables stands for a series. -/
theorem series?_evaluate_eq_none_iff {e : Expr α} {v : Value α}
    (h : e.evaluate pad resolve = .ok v) :
    v.series? = none ↔ ∀ o ∈ e.occurrences, ∀ s, resolve o ≠ .ok (.series s) := by
  induction e generalizing v with
  | number x =>
      rw [evaluate_number] at h
      cases h
      simp [Value.series?, occurrences]
  | «variable» options =>
      rw [evaluate_variable] at h
      cases v <;> simp [Value.series?, occurrences, h]
  | binary left op right ihl ihr =>
      obtain ⟨l, r, hl, hr, heq⟩ := evaluate_binary_eq_ok_iff.1 h
      rw [heq, Value.series?_binary_eq_none_iff, ihl hl, ihr hr]
      simp only [occurrences, List.mem_append, or_imp, forall_and]
  | unary sign operand ih =>
      obtain ⟨w, hw, heq⟩ := evaluate_unary_eq_ok_iff.1 h
      rw [heq, Value.series?_unary_eq_none_iff]
      exact ih hw

/-- **Formulas are evaluated instant by instant.**  Where every variable has a value, so has the
formula.  It is a number exactly when no variable stands for a series; otherwise it is a series with
the keys of all of theirs, and at each of these it has the number to which the formula evaluates
when every series is replaced by what it has there. -/
theorem evaluate_pointwise (e : Expr α) (pad : Padding α)
    (resolve : Options → Except Fault (Value α))
    (h : ∀ o ∈ e.occurrences, ∃ v, resolve o = .ok v) :
    ∃ v, e.evaluate pad resolve = .ok v ∧
      ((∃ x, v = .scalar x) ↔ ∀ o ∈ e.occurrences, ∀ s, resolve o ≠ .ok (.series s)) ∧
      ∀ s, v = .series s →
        (∀ k, k ∈ s ↔ ∃ o ∈ e.occurrences, ∃ t, resolve o = .ok (.series t) ∧ k ∈ t) ∧
        ∀ k ∈ s, ∃ x, s[k]? = some x ∧
          (e.frozen resolve pad k).evaluate pad resolve = .ok (.scalar x) := by
  obtain ⟨v, hv⟩ := exists_evaluate_eq_ok pad h
  refine ⟨v, hv, ?_, ?_⟩
  · rw [← series?_evaluate_eq_none_iff hv]
    cases v <;> simp [Value.series?]
  · intro s hs
    subst hs
    refine ⟨fun k => hasKey_evaluate hv, ?_⟩
    intro k hk
    refine ⟨s[k], Std.ExtTreeMap.getElem?_eq_some_getElem hk, ?_⟩
    have hread : Value.reading pad k (.series s) = s[k] := by
      show s[k]?.getD pad.value = s[k]
      rw [Std.ExtTreeMap.getElem?_eq_some_getElem hk]
      rfl
    rw [evaluate_frozen k hv, hread]

/-- A variable without a sign or with one, and a quotient. -/
def lessSixPer : Expr ℚ :=
  binary (unary .negative («variable» {("sid", "1")})) .subtract
    (binary (number 6) .divide («variable» {("sid", "2")}))

/-- Two series that share one key, by the `sid` of a variable. -/
def twoSensors (options : Options) : Except Fault (Value ℚ) :=
  .ok (.series (.ofPoints (if options["sid"]? = some "1" then [(0, 5), (60, 7)]
    else [(60, 3), (120, 0)])))

/-- Where one of the two series has no value, the formula has padding. -/
theorem evaluate_pointwise_twoSensors :
    ∃ s : Series ℚ, lessSixPer.evaluate ⟨100⟩ twoSensors = .ok (.series s) ∧
      s[(0 : Int)]? = some 100 ∧ s[(60 : Int)]? = some (-9) ∧ s[(120 : Int)]? = some 100 ∧
      s[(180 : Int)]? = none := by
  obtain ⟨v, hv, hscalar, hseries⟩ :=
    evaluate_pointwise lessSixPer ⟨100⟩ twoSensors fun o _ => ⟨_, rfl⟩
  cases v with
  | scalar x => exact absurd rfl (hscalar.1 ⟨x, rfl⟩ {("sid", "1")} List.mem_cons_self _)
  | series s =>
      obtain ⟨hkeys, hvalues⟩ := hseries s rfl
      have hread : ∀ k x, k ∈ s →
          (((lessSixPer.frozen twoSensors ⟨100⟩ k).evaluate ⟨100⟩ twoSensors).toOption.bind
            Value.scalar?) = some x → s[k]? = some x := by
        intro k x hk hx
        obtain ⟨y, hy, heval⟩ := hvalues k hk
        rw [heval] at hx
        rw [hy]
        exact hx
      have hfirst : ∀ k ∈ Series.ofPoints [(0, (5 : ℚ)), (60, 7)], k ∈ s :=
        fun k hk => (hkeys k).2 ⟨{("sid", "1")}, List.mem_cons_self, _, rfl, hk⟩
      have hsecond : ∀ k ∈ Series.ofPoints [(60, (3 : ℚ)), (120, 0)], k ∈ s :=
        fun k hk => (hkeys k).2
          ⟨{("sid", "2")}, List.mem_cons_of_mem _ List.mem_cons_self, _, rfl, hk⟩
      refine ⟨s, hv, ?_, ?_, ?_, ?_⟩
      · exact hread 0 100 (hfirst 0 (by decide +kernel)) (by decide +kernel)
      · exact hread 60 (-9) (hfirst 60 (by decide +kernel)) (by decide +kernel)
      · exact hread 120 100 (hsecond 120 (by decide +kernel)) (by decide +kernel)
      · refine Std.ExtTreeMap.getElem?_eq_none fun h => ?_
        obtain ⟨o, ho, t, ht, hk⟩ := (hkeys 180).1 h
        rcases List.mem_cons.1 ho with heq | ho
        · subst heq
          cases ht
          revert hk
          decide +kernel
        · cases List.mem_singleton.1 ho
          cases ht
          revert hk
          decide +kernel

end Expr
end MetricQuery
