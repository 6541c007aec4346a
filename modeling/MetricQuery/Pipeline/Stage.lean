/-
  MetricQuery.Pipeline.Stage
  ──────────────────────────
  **STAGES AND PIPELINES.**

  A stage turns one frame into another.  A pipeline is a list of steps, each a
  stage or a pipeline inside; every step takes the output of the step before it.

    • `Pipeline.run`       — the steps in order, up to the first failure,
    • `Pipeline.stages`    — the stages alone, pipelines inside laid out,
    • `Pipeline.describe`  — the names of the steps,
    • `Stage.branches`     — several pipelines on one input, their series collected.
-/
import MetricQuery.Pipeline.Run

namespace MetricQuery

/-! ## §1. Stages and steps. -/

/-- A named computation on frames. -/
structure Stage (α : Type) where
  name : String
  run : Frame α → Run α (Frame α)

/-- A stage, or a pipeline that counts as one step. -/
inductive Step (α : Type) where
  | stage (stage : Stage α)
  | nested (steps : List (Step α))

/-- Steps in the order in which they run. -/
abbrev Pipeline (α : Type) : Type :=
  List (Step α)

variable {α : Type}

/-- How a nested pipeline is shown among the names of stages. -/
def Step.nestedName : String := "[..]"

/-- The name of a step. -/
def Step.name : Step α → String
  | .stage s => s.name
  | .nested _ => nestedName

/-- A stage's run, with the report that it finished. -/
def Stage.report (s : Stage α) (input : Frame α) : Run α (Frame α) :=
  (s.run input).reported s.name

/-! ## §2. Running. -/

mutual

/-- One step. -/
def Step.run : Step α → Frame α → Run α (Frame α)
  | .stage s, input => s.report input
  | .nested steps, input => runSteps steps input

/-- Steps one after another, each on the output of the step before. -/
def runSteps : List (Step α) → Frame α → Run α (Frame α)
  | [], input => pure input
  | step :: rest, input => (Step.run step input).bind (runSteps rest)

end

mutual

/-- The stages of one step. -/
def Step.stages : Step α → List (Stage α)
  | .stage s => [s]
  | .nested steps => stagesOf steps

/-- The stages of steps, from left to right. -/
def stagesOf : List (Step α) → List (Stage α)
  | [] => []
  | step :: rest => Step.stages step ++ stagesOf rest

end

namespace Pipeline

/-- **A pipeline's run.** -/
def run (p : Pipeline α) (input : Frame α) : Run α (Frame α) :=
  runSteps p input

/-- The stages of a pipeline, with the pipelines inside it laid out. -/
def stages (p : Pipeline α) : List (Stage α) :=
  stagesOf p

/-- The names of the steps, without a look into the pipelines inside. -/
def describe (p : Pipeline α) : List String :=
  p.map Step.name

end Pipeline

/-! ## §3. Branches. -/

/-- The series of one branch. -/
def branchSeries (branch : Pipeline α) (input : Frame α) : Run α (List (Series α)) :=
  (branch.run input).bind fun
    | .series s => .pure [s]
    | .list ss => .pure ss
    | .empty => .fail (.execution .emptyBranch)

/-- The series of all branches on the same input, in order. -/
def collect : List (Pipeline α) → Frame α → Run α (List (Series α))
  | [], _ => .pure []
  | branch :: rest, input =>
      (branchSeries branch input).bind fun ss =>
        (collect rest input).bind fun more => .pure (ss ++ more)

/-- **Several pipelines on the same input.**  Their series become one list, and the first branch
that fails or yields nothing ends the run. -/
def Stage.branches (branches : List (Pipeline α)) : Stage α where
  name := "branches"
  run input := (collect branches input).bind fun ss => .pure (.list ss)

end MetricQuery
