/-
  MetricQuery.Proofs.Retrieval.NodeGrid
  ─────────────────────────────────────
  **A FORMULA FILLS THE NODE GRID.**

  Three grids meet in the stage that evaluates a formula.  A formula that comes to
  a number is spread over one that was computed beside it.  Each variable is
  laid on one inside a retrieval of its own.  An operator makes a third, of the
  keys of both its operands.  They are all the node grid of the request, so
  however few samples there are, no key is missing and none is added.

    • `Plan.exists_outcome_formulaStage_iff` — when the formula has a value,
    • `formulaStage_fills_nodeGrid` — the keys of that value.
-/
import MetricQuery.Proofs.Retrieval.Failures

namespace MetricQuery

variable {α : Type}

variable [Quantity α]

namespace Plan

variable {plan : Plan α} {request : Request α} {e : Expr α}

/-- **The stage succeeds** if and only if no variable of the formula fails. -/
theorem exists_outcome_formulaStage_iff (input : Frame α) :
    (∃ frame, ((plan.formulaStage request e).run input).outcome = .ok frame) ↔
      ∀ o ∈ e.occurrences, ∀ fault, ¬ plan.VariableFails request o fault := by
  have hfails : (∃ fault, ((plan.formulaStage request e).run input).outcome = .error fault) ↔
      ∃ o ∈ e.occurrences, ∃ fault, plan.VariableFails request o fault := by
    simp only [outcome_formulaStage, Except.map_eq_error_iff, Expr.evaluate_eq_error_iff,
      ← variableFails_iff]
    exact exists_firstFailure_iff
  rw [Except.exists_ok_iff, ← not_exists, hfails]
  simp only [not_exists, not_and]

/-- What the stage yields is a series on the node grid. -/
theorem exists_series_of_outcome_formulaStage {input frame : Frame α}
    (h : ((plan.formulaStage request e).run input).outcome = .ok frame) :
    ∃ s : Series α, frame = .series s ∧
      ∀ k, k ∈ s ↔ k ∈ plan.grid request request.nodeResolution := by
  rw [outcome_formulaStage] at h
  cases hvalue : e.evaluate request.padding (plan.variableOutcome request) with
  | error fault => rw [hvalue] at h; cases h
  | ok v =>
      rw [hvalue] at h
      cases h
      have hgrid := Expr.onGrid_evaluate (fun _ _ => onGrid_variableOutcome) hvalue
      exact ⟨_, rfl, fun k => Value.mem_spread_iff hgrid⟩

end Plan

/-- **A formula fills the node grid.**  The steps for a formula that parses begin with the stage
that evaluates it.  On any input that stage succeeds if and only if no variable fails, and what it
then yields is one series whose keys are those of the node grid: whatever the source holds, whatever
clock the buckets follow, and whether the formula is a number, has variables or mixes both. -/
theorem formulaStage_fills_nodeGrid (plan : Plan α) (request : Request α) (text : String)
    (e : Expr α) (hparse : parse text = .ok e) :
    ∃ (stage : Stage α) (rest : Pipeline α),
      plan.formulaHead request text = .ok (.stage stage :: rest) ∧ stage.name = "formula" ∧
      ∀ input : Frame α,
        ((∃ frame, (stage.run input).outcome = .ok frame) ↔
          ∀ o ∈ e.occurrences, ∀ fault, ¬ plan.VariableFails request o fault) ∧
        ∀ frame, (stage.run input).outcome = .ok frame → ∃ s : Series α, frame = .series s ∧
          s.keys = bucketKeys plan.clock request.nodeResolution request.start request.stop := by
  refine ⟨_, _, Plan.formulaHead_of_parse hparse, rfl, ?_⟩
  intro input
  refine ⟨Plan.exists_outcome_formulaStage_iff input, ?_⟩
  intro frame hframe
  obtain ⟨s, rfl, hkeys⟩ := Plan.exists_series_of_outcome_formulaStage hframe
  exact ⟨s, rfl, Series.keys_eq (pairwise_bucketKeys _ _ _ _) hkeys⟩

/-- A store with samples of one entity in one minute, on a clock of universal time. -/
def oneMinute : Plan ℚ :=
  ⟨(SampleStore.ofWrites [.batch ⟨"1", "1"⟩ [(70, 5), (80, 9)]]).source, Zone.utc.clock⟩

/-- The two minutes that begin in the range are the keys of a number, and of a formula in which one
variable has samples in one of them and the other has none at all. -/
theorem formulaStage_fills_nodeGrid_two_minutes :
    ∃ (number mixed : Stage ℚ) (rest rest' : Pipeline ℚ) (s t : Series ℚ),
      oneMinute.formulaHead (minuteSums [] 30 125) "7" = .ok (.stage number :: rest) ∧
      (number.run .empty).outcome = .ok (.series s) ∧ s.keys = [60, 120] ∧
      oneMinute.formulaHead (minuteSums [] 30 125)
          "2 * [sid=1,nid=1,agg=max] - [sid=2,nid=1]" = .ok (.stage mixed :: rest') ∧
      (mixed.run .empty).outcome = .ok (.series t) ∧ t.keys = [60, 120] := by
  -- Every variable of both formulas has a value.
  have hvariables : ∀ text ∈ ["7", "2 * [sid=1,nid=1,agg=max] - [sid=2,nid=1]"],
      ∃ e : Expr ℚ, parse text = .ok e ∧ ∀ o ∈ e.occurrences, ∀ fault,
        ¬ oneMinute.VariableFails (minuteSums [] 30 125) o fault := by
    intro text htext
    have hcomputed : ∀ text ∈ ["7", "2 * [sid=1,nid=1,agg=max] - [sid=2,nid=1]"],
        (parse text : Except Fault (Expr ℚ)).toOption.map (fun e => e.occurrences.all fun o =>
          (oneMinute.variableOutcome (minuteSums [] 30 125) o).isOk) = some true := by
      decide +kernel
    obtain ⟨e, hparse, hall⟩ := Option.map_eq_some_iff.1 (hcomputed text htext)
    refine ⟨e, Except.toOption_eq_some_iff.1 hparse, ?_⟩
    intro o ho fault hfault
    have hok := List.all_eq_true.1 hall o ho
    rw [Plan.variableFails_iff.1 hfault] at hok
    cases hok
  have hgrid : bucketKeys oneMinute.clock (minuteSums [] 30 125).nodeResolution 30 125 =
      [60, 120] := by
    decide +kernel
  obtain ⟨e, he, heok⟩ := hvariables "7" List.mem_cons_self
  obtain ⟨f, hf, hfok⟩ := hvariables _ (List.mem_cons_of_mem _ List.mem_cons_self)
  obtain ⟨number, rest, hnumber, -, hrun⟩ :=
    formulaStage_fills_nodeGrid oneMinute (minuteSums [] 30 125) _ e he
  obtain ⟨mixed, rest', hmixed, -, hrun'⟩ :=
    formulaStage_fills_nodeGrid oneMinute (minuteSums [] 30 125) _ f hf
  obtain ⟨frame, hframe⟩ := (hrun .empty).1.2 heok
  obtain ⟨frame', hframe'⟩ := (hrun' .empty).1.2 hfok
  obtain ⟨s, rfl, hs⟩ := (hrun .empty).2 frame hframe
  obtain ⟨t, rfl, ht⟩ := (hrun' .empty).2 frame' hframe'
  exact ⟨number, mixed, rest, rest', s, t, hnumber, hframe, hs.trans hgrid, hmixed, hframe',
    ht.trans hgrid⟩

end MetricQuery
