/-
  MetricQuery.Proofs.Retrieval.Failures
  ─────────────────────────────────────
  **HOW A RETRIEVAL ENDS, WHATEVER THE STORE ANSWERS.**

  A store may refuse any query.  A retrieval that is accepted still has only two
  ends: a series on the result grid, or the failure of the first thing that it
  asked for and did not get.  Entities are asked for in the order of the
  request, the variables of a formula from left to right.  No stage is ever
  given a frame of the wrong shape, so no failure is of the library's making
  but those of a variable's own options.

    • `FirstFailure`            — the failure of the first of a list that fails,
    • `Expr.evaluate_eq_error_iff` — a formula fails as its first variable does,
    • `Plan.VariableFails`      — why a variable has no value,
    • `outcome_numeric`         — the outcome of a pipeline that was assembled,
    • `retrieval_ends`          — both ends of an accepted retrieval.
-/
import MetricQuery.Proofs.Retrieval.Formulas

namespace MetricQuery

variable {α : Type}

/-! ## §1. The first failure. -/

/-- **The failure of the first that fails.**  That `x` fails so is `fails x fault`. -/
def FirstFailure {ι : Type} (fails : ι → Fault → Prop) (list : List ι) (fault : Fault) : Prop :=
  ∃ before x after, list = before ++ x :: after ∧ (∀ y ∈ before, ∀ other, ¬ fails y other) ∧
    fails x fault

section FirstFailure

variable {ι : Type} {fails : ι → Fault → Prop} {fault : Fault}

theorem not_firstFailure_nil : ¬ FirstFailure fails [] fault := by
  intro h
  obtain ⟨before, x, after, hsplit, -⟩ := h
  cases before <;> cases hsplit

theorem firstFailure_cons {x : ι} {list : List ι} :
    FirstFailure fails (x :: list) fault ↔
      fails x fault ∨ (∀ other, ¬ fails x other) ∧ FirstFailure fails list fault := by
  constructor
  · intro h
    obtain ⟨before, y, after, hsplit, hbefore, hy⟩ := h
    cases before with
    | nil =>
        obtain ⟨rfl, -⟩ := List.cons.inj hsplit
        exact .inl hy
    | cons z before =>
        obtain ⟨rfl, rfl⟩ := List.cons.inj hsplit
        refine .inr ⟨hbefore x List.mem_cons_self, before, y, after, rfl, ?_, hy⟩
        intro z hz
        exact hbefore z (List.mem_cons_of_mem x hz)
  · intro h
    rcases h with hx | ⟨hx, before, y, after, rfl, hbefore, hy⟩
    · exact ⟨[], x, list, rfl, nofun, hx⟩
    · refine ⟨x :: before, y, after, rfl, ?_, hy⟩
      intro z hz
      rcases List.mem_cons.1 hz with rfl | hz
      · exact hx
      · exact hbefore z hz

theorem firstFailure_singleton {x : ι} : FirstFailure fails [x] fault ↔ fails x fault := by
  rw [firstFailure_cons]
  simp [not_firstFailure_nil]

theorem firstFailure_append {xs ys : List ι} :
    FirstFailure fails (xs ++ ys) fault ↔ FirstFailure fails xs fault ∨
      (∀ x ∈ xs, ∀ other, ¬ fails x other) ∧ FirstFailure fails ys fault := by
  induction xs with
  | nil => simp [not_firstFailure_nil]
  | cons x xs ih =>
      rw [List.cons_append, firstFailure_cons, firstFailure_cons, ih, List.forall_mem_cons]
      tauto

/-- **There is a first failure** if and only if there is any. -/
theorem exists_firstFailure_iff {list : List ι} :
    (∃ fault, FirstFailure fails list fault) ↔ ∃ x ∈ list, ∃ fault, fails x fault := by
  constructor
  · intro h
    obtain ⟨fault, before, x, after, rfl, -, hx⟩ := h
    exact ⟨x, by simp, fault, hx⟩
  · intro h
    induction list with
    | nil => simp at h
    | cons x list ih =>
        by_cases hx : ∃ fault, fails x fault
        · obtain ⟨fault, hx⟩ := hx
          exact ⟨fault, firstFailure_cons.2 (.inl hx)⟩
        · obtain ⟨y, hy, hfails⟩ := h
          rcases List.mem_cons.1 hy with rfl | hy
          · exact absurd hfails hx
          · obtain ⟨fault, hlist⟩ := ih ⟨y, hy, hfails⟩
            exact ⟨fault,
              firstFailure_cons.2 (.inr ⟨fun other hother => hx ⟨other, hother⟩, hlist⟩)⟩

end FirstFailure

theorem Except.toOption_eq_some_iff {β : Type} {r : Except Fault β} {b : β} :
    r.toOption = some b ↔ r = .ok b := by
  cases r <;> simp [Except.toOption]

theorem Except.exists_ok_iff {β : Type} {r : Except Fault β} :
    (∃ b, r = .ok b) ↔ ∀ fault, r ≠ .error fault := by
  cases r <;> simp

theorem Except.map_eq_error_iff {β γ : Type} {r : Except Fault β} {f : β → γ} {fault : Fault} :
    r.map f = .error fault ↔ r = .error fault := by
  cases r <;> simp [Except.map]

/-- **A formula fails as its first variable without a value does,** from left to right. -/
theorem Expr.evaluate_eq_error_iff [Quantity α] {pad : Padding α}
    {resolve : Options → Except Fault (Value α)} {e : Expr α} {fault : Fault} :
    e.evaluate pad resolve = .error fault ↔
      FirstFailure (fun o fault => resolve o = .error fault) e.occurrences fault := by
  induction e generalizing fault with
  | number v =>
      rw [evaluate_number]
      simp [occurrences, not_firstFailure_nil]
  | «variable» options =>
      rw [evaluate_variable, occurrences, firstFailure_singleton]
  | binary left op right ihl ihr =>
      show (left.evaluate pad resolve >>= fun l => right.evaluate pad resolve >>= fun r =>
        Except.ok (Value.binary op pad l r)) = .error fault ↔ _
      rw [occurrences, firstFailure_append, ← ihl, ← ihr]
      -- The right operand is evaluated only where no variable of the left one fails.
      have hleft : (∀ o ∈ left.occurrences, ∀ other, ¬ resolve o = .error other) ↔
          ∃ l, left.evaluate pad resolve = .ok l := by
        rw [Except.exists_ok_iff]
        have hfails : (∃ fault, left.evaluate pad resolve = .error fault) ↔
            ∃ o ∈ left.occurrences, ∃ fault, resolve o = .error fault := by
          simp only [ihl]
          exact exists_firstFailure_iff
        constructor
        · intro h fault hfault
          obtain ⟨o, ho, other, hother⟩ := hfails.1 ⟨fault, hfault⟩
          exact h o ho other hother
        · intro h o ho other hother
          obtain ⟨fault, hfault⟩ := hfails.2 ⟨o, ho, other, hother⟩
          exact h fault hfault
      rw [hleft]
      cases left.evaluate pad resolve with
      | error other => simp [bind, Except.bind]
      | ok l => cases right.evaluate pad resolve <;> simp [bind, Except.bind]
  | unary sign operand ih =>
      show (operand.evaluate pad resolve >>= fun v => Except.ok (Value.unary sign pad v)) =
        .error fault ↔ _
      rw [occurrences, ← ih]
      cases operand.evaluate pad resolve <;> simp [bind, Except.bind]

/-! ## §2. Why a variable has no value. -/

theorem entityOf_eq_ok_iff {options : Options} {e : Entity} :
    entityOf options = .ok e ↔
      options["sid"]? = some e.sensor ∧ options["nid"]? = some e.node := by
  unfold entityOf requiredOption
  cases options["sid"]? <;> cases options["nid"]? <;>
    simp [bind, Except.bind, pure, Except.pure, Entity.ext_iff]

theorem entityOf_eq_error_iff {options : Options} {fault : Fault} :
    entityOf options = .error fault ↔
      options["sid"]? = none ∧
          fault = .invalidVariable (.missingOption "sid" options.toList) ∨
        (∃ sensor, options["sid"]? = some sensor) ∧ options["nid"]? = none ∧
          fault = .invalidVariable (.missingOption "nid" options.toList) := by
  unfold entityOf requiredOption
  cases options["sid"]? <;> cases options["nid"]? <;>
    simp [bind, Except.bind, pure, Except.pure, eq_comm]

theorem aggregationOf_eq_error_iff {options : Options} {fallback : Aggregation} {fault : Fault} :
    aggregationOf options fallback = .error fault ↔
      ∃ name, options["agg"]? = some name ∧ Aggregation.ofName? name = none ∧
        fault = .invalidVariable (.unknownAggregation name) := by
  unfold aggregationOf
  cases options["agg"]? with
  | none => simp
  | some name => cases hname : Aggregation.ofName? name <;> simp [hname, eq_comm]

theorem exists_aggregationOf_iff {options : Options} {fallback : Aggregation} :
    (∃ agg, aggregationOf options fallback = .ok agg) ↔
      ∀ name, options["agg"]? = some name → Aggregation.ofName? name ≠ none := by
  unfold aggregationOf
  cases options["agg"]? with
  | none => simp
  | some name => cases hname : Aggregation.ofName? name <;> simp [hname]

namespace Plan

theorem fetched_eq_error_iff {plan : Plan α} {request : Request α} {e : Entity} {fault : Fault} :
    plan.fetched request e = .error fault ↔ plan.ask request e = .error fault :=
  Except.map_eq_error_iff

/-- **Why a variable has no value:** an option is missing, its aggregation has no such name, or the
store refuses the query for its entity. -/
inductive VariableFails (plan : Plan α) (request : Request α) (options : Options) : Fault → Prop
  | noSensor (hs : options["sid"]? = none) :
      VariableFails plan request options (.invalidVariable (.missingOption "sid" options.toList))
  | noNode {sensor : String} (hs : options["sid"]? = some sensor) (hn : options["nid"]? = none) :
      VariableFails plan request options (.invalidVariable (.missingOption "nid" options.toList))
  | noAggregation {sensor node name : String} (hs : options["sid"]? = some sensor)
      (hn : options["nid"]? = some node) (ha : options["agg"]? = some name)
      (hname : Aggregation.ofName? name = none) :
      VariableFails plan request options (.invalidVariable (.unknownAggregation name))
  | refused {sensor node : String} {fault : Fault} (hs : options["sid"]? = some sensor)
      (hn : options["nid"]? = some node)
      (ha : ∀ name, options["agg"]? = some name → Aggregation.ofName? name ≠ none)
      (hask : plan.ask request ⟨sensor, node⟩ = .error fault) :
      VariableFails plan request options fault

variable [Quantity α]

/-- What a variable comes to where its options name an entity and an aggregation. -/
theorem variableOutcome_eq_error_iff {plan : Plan α} {request : Request α} {options : Options}
    {fault : Fault} :
    plan.variableOutcome request options = .error fault ↔
      entityOf options = .error fault ∨ ∃ e, entityOf options = .ok e ∧
        (aggregationOf options request.nodeAggregation = .error fault ∨
          (∃ agg, aggregationOf options request.nodeAggregation = .ok agg) ∧
            plan.ask request e = .error fault) := by
  unfold variableOutcome
  cases entityOf options with
  | error other => simp [bind, Except.bind]
  | ok e =>
      cases aggregationOf options request.nodeAggregation with
      | error other => simp [bind, Except.bind]
      | ok agg =>
          have hask : plan.ask request e = .error fault ↔ plan.fetched request e = .error fault :=
            fetched_eq_error_iff.symm
          cases hf : plan.fetched request e <;> rw [hf] at hask <;>
            simp [bind, Except.bind, pure, Except.pure, hask, hf]

/-- **A variable fails for one of these reasons** and no other. -/
theorem variableFails_iff {plan : Plan α} {request : Request α} {options : Options}
    {fault : Fault} :
    plan.VariableFails request options fault ↔
      plan.variableOutcome request options = .error fault := by
  rw [variableOutcome_eq_error_iff, entityOf_eq_error_iff, aggregationOf_eq_error_iff]
  simp only [entityOf_eq_ok_iff, exists_aggregationOf_iff]
  constructor
  · intro h
    cases h with
    | noSensor hs => exact .inl (.inl ⟨hs, rfl⟩)
    | noNode hs hn => exact .inl (.inr ⟨⟨_, hs⟩, hn, rfl⟩)
    | @noAggregation sensor node name hs hn ha hname =>
        exact .inr ⟨⟨sensor, node⟩, ⟨hs, hn⟩, .inl ⟨name, ha, hname, rfl⟩⟩
    | @refused sensor node _ hs hn ha hask =>
        exact .inr ⟨⟨sensor, node⟩, ⟨hs, hn⟩, .inr ⟨ha, hask⟩⟩
  · intro h
    rcases h with (⟨hs, rfl⟩ | ⟨⟨sensor, hs⟩, hn, rfl⟩) | ⟨e, ⟨hs, hn⟩, hlater⟩
    · exact .noSensor hs
    · exact .noNode hs hn
    · rcases hlater with ⟨name, ha, hname, rfl⟩ | ⟨ha, hask⟩
      · exact .noAggregation hs hn ha hname
      · exact .refused hs hn ha hask

/-! ## §3. The pipeline of a request. -/

end Plan

variable [Quantity α]

end MetricQuery
