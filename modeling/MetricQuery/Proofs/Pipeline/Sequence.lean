/-
  MetricQuery.Proofs.Pipeline.Sequence
  ────────────────────────────────────
  **PIPELINES ARE THEIR STAGES IN SEQUENCE.**

  A pipeline is a tree, but it runs like a list: the stages from left to right,
  each once and on the output of the one before, up to the first that fails.
  This holds of the outcome and of the record alike, so it does not matter how
  steps are grouped into pipelines inside.

    • `runStages`           — stages one after another,
    • `run_eq_runStages`    — a pipeline runs like the list of its stages,
    • `Passes`              — stages that succeed in sequence, with their record,
    • `runStages_eq_ok_iff`, `runStages_eq_error_iff` — how a sequence ends,
    • `Regroups`            — steps put into a pipeline inside, at any depth,
    • `run_composes`        — all of it for any pipeline.
-/
import MetricQuery.Pipeline.Stage

namespace MetricQuery

variable {α : Type}

/-! ## §1. From the tree to the list. -/

/-- Stages one after another, each on the output of the one before. -/
def runStages : List (Stage α) → Frame α → Run α (Frame α)
  | [], input => .pure input
  | s :: rest, input => (s.report input).bind (runStages rest)

/-- **The first stages, and the others on their output.** -/
theorem runStages_append (first second : List (Stage α)) (input : Frame α) :
    runStages (first ++ second) input = (runStages first input).bind (runStages second) := by
  induction first generalizing input with
  | nil => rfl
  | cons s first ih =>
      show (s.report input).bind (runStages (first ++ second)) = _
      rw [show runStages (first ++ second) = fun frame => (runStages first frame).bind
        (runStages second) from funext ih]
      exact (Run.bind_assoc' _ _ _).symm

theorem runStages_singleton (s : Stage α) (input : Frame α) :
    runStages [s] input = s.report input :=
  Run.bind_pure' _

mutual

/-- A step runs like its stages. -/
theorem Step.run_eq_runStages : ∀ (step : Step α) (input : Frame α),
    step.run input = runStages step.stages input
  | .stage s, input => by
      rw [Step.run, Step.stages]
      exact (runStages_singleton s input).symm
  | .nested steps, input => by
      rw [Step.run, Step.stages]
      exact runSteps_eq_runStages steps input

/-- Steps run like their stages from left to right. -/
theorem runSteps_eq_runStages : ∀ (steps : List (Step α)) (input : Frame α),
    runSteps steps input = runStages (stagesOf steps) input
  | [], input => by
      rw [runSteps, stagesOf]
      rfl
  | step :: rest, input => by
      rw [runSteps, stagesOf, runStages_append, Step.run_eq_runStages step input]
      -- The step before hands its output to a sequence that runs like its stages, whatever it is.
      congr 1
      funext frame
      exact runSteps_eq_runStages rest frame

end

/-- **A pipeline runs like the list of its stages.** -/
theorem run_eq_runStages (p : Pipeline α) (input : Frame α) :
    p.run input = runStages p.stages input :=
  runSteps_eq_runStages p input

/-! ## §2. How a sequence ends. -/

/-- **Stages that succeed in sequence:** from the frame `input` to the frame `output`, each on the
output of the one before.  They leave the events on record, those of one stage behind those of the
other. -/
inductive Passes : Frame α → List (Stage α) → Frame α → List (Event α) → Prop
  | nil (frame : Frame α) : Passes frame [] frame []
  | cons {s : Stage α} {rest : List (Stage α)} {input middle output : Frame α}
      {events : List (Event α)} (hs : (s.run input).outcome = .ok middle)
      (h : Passes middle rest output events) :
      Passes input (s :: rest) output ((s.report input).events ++ events)

theorem runStages_cons_of_ok {s : Stage α} {rest : List (Stage α)} {input middle : Frame α}
    (h : (s.run input).outcome = .ok middle) :
    runStages (s :: rest) input =
      ⟨(s.report input).events ++ (runStages rest middle).events,
        (runStages rest middle).outcome⟩ := by
  show Run.bind _ _ = _
  unfold Run.bind
  rw [show (s.report input).outcome = .ok middle from h]

theorem runStages_cons_of_error {s : Stage α} {rest : List (Stage α)} {input : Frame α}
    {fault : Fault} (h : (s.run input).outcome = .error fault) :
    runStages (s :: rest) input = ⟨(s.report input).events, .error fault⟩ := by
  show Run.bind _ _ = _
  unfold Run.bind
  rw [show (s.report input).outcome = .error fault from h]

/-- Stages that succeed in sequence leave their record, and the others go on from their output. -/
theorem Passes.runStages_append {first rest : List (Stage α)} {input middle : Frame α}
    {events : List (Event α)} (h : Passes input first middle events) :
    runStages (first ++ rest) input =
      ⟨events ++ (runStages rest middle).events, (runStages rest middle).outcome⟩ := by
  induction h with
  | nil frame => rfl
  | cons hs _ ih =>
      rw [List.cons_append, runStages_cons_of_ok hs, ih]
      simp

/-- **A sequence succeeds** if and only if all of its stages do, one after the other. -/
theorem runStages_eq_ok_iff {stages : List (Stage α)} {input output : Frame α} :
    (runStages stages input).outcome = .ok output ↔
      Passes input stages output (runStages stages input).events := by
  constructor
  · intro h
    induction stages generalizing input with
    | nil =>
        cases h
        exact .nil _
    | cons s rest ih =>
        cases hs : (s.run input).outcome with
        | error fault =>
            rw [runStages_cons_of_error hs] at h
            cases h
        | ok middle =>
            rw [runStages_cons_of_ok hs] at h ⊢
            exact .cons hs (ih h)
  · intro h
    rw [← List.append_nil stages, h.runStages_append]
    rfl

/-- **A sequence fails** if and only if one of its stages does, behind others that succeed.  The
failure is that of the stage, and the record ends with it. -/
theorem runStages_eq_error_iff {stages : List (Stage α)} {input : Frame α} {fault : Fault} :
    (runStages stages input).outcome = .error fault ↔
      ∃ before s after middle events, stages = before ++ s :: after ∧
        Passes input before middle events ∧ (s.run middle).outcome = .error fault ∧
        (runStages stages input).events = events ++ (s.report middle).events := by
  constructor
  · intro h
    induction stages generalizing input with
    | nil => cases h
    | cons s rest ih =>
        cases hs : (s.run input).outcome with
        | error fault' =>
            rw [runStages_cons_of_error hs] at h ⊢
            cases h
            exact ⟨[], s, rest, input, [], rfl, .nil input, hs, rfl⟩
        | ok middle =>
            rw [runStages_cons_of_ok hs] at h ⊢
            obtain ⟨before, t, after, last, events, hsplit, hpass, hfail, hevents⟩ := ih h
            refine ⟨s :: before, t, after, last, _, ?_, .cons hs hpass, hfail, ?_⟩
            · rw [hsplit, List.cons_append]
            · rw [hevents, List.append_assoc]
  · intro h
    obtain ⟨before, s, after, middle, events, rfl, hpass, hfail, -⟩ := h
    rw [hpass.runStages_append, runStages_cons_of_error hfail]

/-! ## §3. Grouping. -/

theorem stagesOf_append (first second : List (Step α)) :
    stagesOf (first ++ second) = stagesOf first ++ stagesOf second := by
  induction first with
  | nil =>
      rw [stagesOf]
      rfl
  | cons step first ih =>
      rw [List.cons_append, stagesOf, stagesOf, ih, List.append_assoc]

/-- A contiguous run of steps is put into a pipeline that counts as one step: among the steps
themselves, or in one of the pipelines inside. -/
inductive Regroups : Pipeline α → Pipeline α → Prop
  | here (first inner last : Pipeline α) :
      Regroups (first ++ inner ++ last) (first ++ .nested inner :: last)
  | inside (first last : Pipeline α) {inner inner' : Pipeline α} (h : Regroups inner inner') :
      Regroups (first ++ .nested inner :: last) (first ++ .nested inner' :: last)

/-- **Grouping keeps the stages** and their order. -/
theorem Regroups.stages_eq {p q : Pipeline α} (h : Regroups p q) : q.stages = p.stages := by
  unfold Pipeline.stages
  induction h with
  | here first inner last =>
      rw [stagesOf_append, stagesOf, Step.stages, stagesOf_append, stagesOf_append,
        List.append_assoc]
  | inside first last _ ih =>
      rw [stagesOf_append, stagesOf_append, stagesOf, stagesOf, Step.stages, Step.stages, ih]

/-- **Pipelines compose sequentially.**  A pipeline runs like the list of its stages.  It succeeds
where all of them do, one on the output of the other; otherwise it fails as the first stage does
that fails, behind those that were run with success, and nothing is run after it.  How the steps
are grouped makes no difference. -/
theorem run_composes (p : Pipeline α) (input : Frame α) :
    p.run input = runStages p.stages input ∧
    (∀ output, (p.run input).outcome = .ok output ↔
      Passes input p.stages output (p.run input).events) ∧
    (∀ fault, (p.run input).outcome = .error fault ↔
      ∃ before s after middle events, p.stages = before ++ s :: after ∧
        Passes input before middle events ∧ (s.run middle).outcome = .error fault ∧
        (p.run input).events = events ++ (s.report middle).events) ∧
    ∀ q, Regroups p q → q.stages = p.stages ∧ q.run input = p.run input := by
  have hrun := run_eq_runStages p input
  refine ⟨hrun, ?_, ?_, ?_⟩
  · intro output
    rw [hrun]
    exact runStages_eq_ok_iff
  · intro fault
    rw [hrun]
    exact runStages_eq_error_iff
  · intro q hq
    have hstages := hq.stages_eq
    refine ⟨hstages, ?_⟩
    rw [hrun, run_eq_runStages, hstages]

/-- A stage that yields one point. -/
def onePoint (name : String) : Stage Nat :=
  ⟨name, fun _ => .pure (.series (.ofPoints [(0, 1)]))⟩

/-- A stage that fails. -/
def refusing (name : String) : Stage Nat :=
  ⟨name, fun _ => .fail (.store name)⟩

/-- Three stages in a pipeline inside, the second of which fails. -/
def grouped : Pipeline Nat :=
  [.stage (onePoint "a"),
   .nested [.stage (onePoint "b"), .stage (refusing "c"), .stage (onePoint "d")]]

/-- The same with the last two in a pipeline of their own. -/
def regrouped : Pipeline Nat :=
  [.stage (onePoint "a"),
   .nested [.stage (onePoint "b"), .nested [.stage (refusing "c"), .stage (onePoint "d")]]]

/-- The names of the stages that a record tells of. -/
def finishedStages (events : List (Event Nat)) : List String :=
  events.filterMap fun
    | .finished stage _ => some stage
    | .queried _ => none

/-- The failure of the innermost pipeline is the failure of all, and the record ends with it. -/
theorem run_composes_regrouped :
    Regroups grouped regrouped ∧ (regrouped.run .empty).outcome = .error (.store "c") ∧
      finishedStages (regrouped.run .empty).events = ["a", "b", "c"] := by
  have hgroup : Regroups grouped regrouped :=
    .inside [.stage (onePoint "a")] []
      (.here [.stage (onePoint "b")] [.stage (refusing "c"), .stage (onePoint "d")] [])
  obtain ⟨hrun, -, -, hsame⟩ := run_composes grouped .empty
  rw [(hsame regrouped hgroup).2, hrun]
  exact ⟨hgroup, rfl, rfl⟩

end MetricQuery
