/-
  MetricQuery.Retrieval.Variable
  ──────────────────────────────
  **THE VARIABLES OF A FORMULA, READ FROM A STORE.**

  A variable names an entity by its options `sid` and `nid`, and possibly an
  aggregation by `agg`.  Its value is a retrieval of its own: the samples of the
  entity, rolled up and laid on the grid.

    • `entityOf`             — the entity of a variable; both options are required,
    • `Scope.pipelineFor`    — the retrieval of a variable,
    • `Scope.resolve`        — its value.
-/
import MetricQuery.Retrieval.Stages

namespace MetricQuery

variable {α : Type}

/-- What every variable of a formula shares. -/
structure Scope (α : Type) where
  source : SampleSource α
  clock : Clock
  start : Int
  stop : Int
  resolution : Resolution
  /-- The aggregation of variables that name none. -/
  aggregation : Aggregation
  padding : Padding α

/-- A required option of a variable. -/
def requiredOption (options : Options) (key : String) : Except Fault String :=
  match options[key]? with
  | some v => .ok v
  | none => .error (.invalidVariable (.missingOption key options.toList))

/-- The entity of a variable. -/
def entityOf (options : Options) : Except Fault Entity := do
  let sensor ← requiredOption options "sid"
  let node ← requiredOption options "nid"
  pure ⟨sensor, node⟩

/-- The aggregation of a variable, if it names one. -/
def aggregationOf (options : Options) (fallback : Aggregation) : Except Fault Aggregation :=
  match options["agg"]? with
  | none => .ok fallback
  | some name =>
      match Aggregation.ofName? name with
      | some agg => .ok agg
      | none => .error (.invalidVariable (.unknownAggregation name))

namespace Scope

/-- **The retrieval of a variable.** -/
def pipelineFor [Quantity α] (scope : Scope α) (options : Options) :
    Except Fault (Pipeline α) := do
  let entity ← entityOf options
  let agg ← aggregationOf options scope.aggregation
  pure [
    .stage (.find scope.source entity scope.start scope.stop),
    .stage (.rollupTime scope.clock scope.resolution agg scope.padding),
    .stage (.pad scope.clock scope.resolution scope.start scope.stop scope.padding)]

/-- The value of a variable.  Its stages are not reported. -/
def resolve [Quantity α] (scope : Scope α) (options : Options) : Run α (Value α) :=
  (Run.ofOutcome (scope.pipelineFor options)).bind fun p =>
    (p.run .empty).quiet.bind fun frame =>
      (Run.ofOutcome frame.single).bind fun s => .pure (.series s)

end Scope
end MetricQuery
