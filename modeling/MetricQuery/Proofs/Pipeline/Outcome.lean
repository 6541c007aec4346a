/-
  MetricQuery.Proofs.Pipeline.Outcome
  ───────────────────────────────────
  **OUTCOMES, STEP BY STEP.**

  What a pipeline yields does not depend on its records: it is the outcomes of
  its steps in sequence.  A stage that maps series maps the one series that it
  is given, and branches that each yield a series yield all of them in order, or
  fail as the first of them does.

    • `outcome_runSteps_cons`, `outcome_runSteps_append` — steps in sequence,
    • `outcome_ofSeries`   — a stage that maps series,
    • `outcome_branches`   — branches that each yield one series or fail.
-/
import MetricQuery.Retrieval.Stages

namespace MetricQuery

variable {α : Type}

/-! ## §1. Steps. -/

theorem outcome_step_stage (s : Stage α) (input : Frame α) :
    (Step.run (.stage s) input).outcome = (s.run input).outcome := by
  rw [Step.run]
  rfl

theorem outcome_step_nested (steps : Pipeline α) (input : Frame α) :
    (Step.run (.nested steps) input).outcome = (steps.run input).outcome := by
  rw [Step.run]
  rfl

@[simp] theorem outcome_runSteps_nil (input : Frame α) :
    (Pipeline.run [] input).outcome = .ok input := by
  rw [Pipeline.run, runSteps]
  rfl

/-- **The first step, and the others on its output.** -/
theorem outcome_runSteps_cons (step : Step α) (rest : Pipeline α) (input : Frame α) :
    (Pipeline.run (step :: rest) input).outcome =
      (Step.run step input).outcome.bind fun frame => (rest.run frame).outcome := by
  rw [Pipeline.run, runSteps, Run.outcome_bind]
  rfl

/-- **The first steps, and the others on their output.** -/
theorem outcome_runSteps_append (first second : Pipeline α) (input : Frame α) :
    (Pipeline.run (first ++ second) input).outcome =
      (first.run input).outcome.bind fun frame => (second.run frame).outcome := by
  induction first generalizing input with
  | nil => rw [List.nil_append, outcome_runSteps_nil]; rfl
  | cons step rest ih =>
      rw [List.cons_append, outcome_runSteps_cons, outcome_runSteps_cons]
      cases (Step.run step input).outcome with
      | error fault => rfl
      | ok frame => exact ih frame

/-- Steps that begin with a stage whose outcome is known. -/
theorem outcome_stage_cons {s : Stage α} {input output : Frame α} (rest : Pipeline α)
    (h : (s.run input).outcome = .ok output) :
    (Pipeline.run (.stage s :: rest) input).outcome = (rest.run output).outcome := by
  rw [outcome_runSteps_cons, outcome_step_stage, h]
  rfl

/-! ## §2. Stages. -/

theorem outcome_ofSeries (name : String) (f : Series α → Series α) (s : Series α) :
    ((Stage.ofSeries name f).run (.series s)).outcome = .ok (.series (f s)) := rfl

/-- **Branches that each yield one series or fail** yield all of the series in order, or fail as the
first of them does. -/
theorem outcome_branches {ι : Type} {branch : ι → Pipeline α}
    {series : ι → Except Fault (Series α)} {input : Frame α}
    (h : ∀ i, ((branch i).run input).outcome = (series i).map .series) (list : List ι) :
    ((Stage.branches (list.map branch)).run input).outcome = (list.mapM series).map .list := by
  have hcollect : (collect (list.map branch) input).outcome = list.mapM series := by
    induction list with
    | nil => rfl
    | cons i list ih =>
        rw [List.map_cons, collect, Run.outcome_bind, branchSeries, Run.outcome_bind, h i,
          List.mapM_cons, ← ih]
        cases series i with
        | error fault => rfl
        | ok s =>
            -- The first branch yields one series, so the others are run.
            show ((collect (list.map branch) input).bind _).outcome = _
            rw [Run.outcome_bind]
            rfl
  rw [Stage.branches, Run.outcome_bind, hcollect]
  cases list.mapM series <;> rfl

end MetricQuery
