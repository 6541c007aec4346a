/-
  MetricQuery.Retrieval.Plan
  ──────────────────────────
  **FROM A REQUEST TO A PIPELINE.**

  Each entity is fetched, rolled up and laid on the grid of the node
  resolution; several are then combined.  A formula takes the place of the
  entities.  In the end the series is rolled up once more and laid on the grid
  of the result resolution.

    • `Plan.entityHead`  — the stages for one entity,
    • `Plan.formulaHead` — the stages for a formula,
    • `Plan.numeric`     — the whole pipeline of a request.
-/
import MetricQuery.Formula.Parser
import MetricQuery.Retrieval.Request
import MetricQuery.Retrieval.Variable

namespace MetricQuery

/-- Where the pipelines of a plan read, and which clock their buckets follow. -/
structure Plan (α : Type) where
  source : SampleSource α
  clock : Clock

namespace Plan

variable {α : Type} [Quantity α]

/-- The grid of a request at a resolution. -/
def grid (plan : Plan α) (request : Request α) (r : Resolution) : List Int :=
  bucketKeys plan.clock r request.start request.stop

/-- Lays each series on the grid of a resolution. -/
def padStage (plan : Plan α) (request : Request α) (r : Resolution) : Stage α :=
  .pad plan.clock r request.start request.stop request.padding

/-- Rolls each series up as a node is. -/
def nodeRollup (plan : Plan α) (request : Request α) : Stage α :=
  .rollupTime plan.clock request.nodeResolution request.nodeAggregation request.padding

/-- The stages for one entity. -/
def entityHead (plan : Plan α) (request : Request α) (e : Entity) : Pipeline α :=
  [.stage (.find plan.source e request.start request.stop),
   .stage (plan.nodeRollup request),
   .stage (plan.padStage request request.nodeResolution)]

/-- What the variables of a formula share. -/
def scope (plan : Plan α) (request : Request α) : Scope α where
  source := plan.source
  clock := plan.clock
  start := request.start
  stop := request.stop
  resolution := request.nodeResolution
  aggregation := request.nodeAggregation
  padding := request.padding

/-- The stage that evaluates a formula on the node grid. -/
def formulaStage (plan : Plan α) (request : Request α) (e : Expr α) : Stage α :=
  .formula e request.padding (some (plan.grid request request.nodeResolution))
    (plan.scope request).resolve

/-- The stages for a formula, which has to parse. -/
def formulaHead (plan : Plan α) (request : Request α) (formula : String) :
    Except Fault (Pipeline α) := do
  let e ← parse formula
  pure [
    .stage (plan.formulaStage request e),
    .stage (plan.nodeRollup request),
    .stage (plan.padStage request request.nodeResolution)]

/-- The first steps, which yield one series on the node grid. -/
def head (plan : Plan α) (request : Request α) : Except Fault (Pipeline α) :=
  match request.source with
  | .entities [] => .error (.configuration .noEntity)
  -- With one entity there is nothing to combine.
  | .entities [e] => .ok [.nested (plan.entityHead request e)]
  | .entities es => .ok [
      .stage (.branches (es.map (plan.entityHead request))),
      .stage (.rollupSpace request.combineAggregation request.padding)]
  | .formula text => do
      let steps ← plan.formulaHead request text
      pure [.nested steps]

/-- **The pipeline of a request.** -/
def numeric (plan : Plan α) (request : Request α) : Except Fault (Pipeline α) := do
  if request.stop ≤ request.start then
    throw (.configuration (.emptyRange request.start request.stop))
  let head ← plan.head request
  pure (head ++ [
    .stage (.rollupTime plan.clock request.resultResolution request.resultAggregation
      request.padding),
    .stage (plan.padStage request request.resultResolution)])

end Plan
end MetricQuery
