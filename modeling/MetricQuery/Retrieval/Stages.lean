/-
  MetricQuery.Retrieval.Stages
  ────────────────────────────
  **THE STAGES OF A RETRIEVAL.**

  Two stages make their own series, by fetching samples or by evaluating a
  formula.  The others reshape what they are given: they roll up over time or
  over entities, lay a series on a grid, or keep a recurring window.

    • `Stage.find`, `Stage.formula`            — the stages that need no input,
    • `Stage.rollupTime`, `Stage.rollupSpace`  — rollups,
    • `Stage.pad`, `Stage.filterWindow`        — grids and windows.
-/
import MetricQuery.Formula.Evaluate
import MetricQuery.Pipeline.Stage
import MetricQuery.Retrieval.Find
import MetricQuery.Series.Reduce
import MetricQuery.Series.Window

namespace MetricQuery.Stage

variable {α : Type}

/-- A stage that applies a function on series. -/
def ofSeries (name : String) (f : Series α → Series α) : Stage α where
  name
  run input := .ofOutcome (input.mapSeries name f)

/-- Every stored value of an entity between two instants, both included. -/
def find (source : SampleSource α) (e : Entity) (start stop : Int) : Stage α where
  name := "find"
  run _ := (MetricQuery.find source e start stop).bind fun s => .pure (.series s)

/-- Each series in buckets of the resolution. -/
def rollupTime [Quantity α] (clock : Clock) (r : Resolution) (agg : Aggregation)
    (pad : Padding α) : Stage α :=
  ofSeries "rollup_time" fun s => s.rollup clock r agg pad

/-- A list of series as one.  A single series stays as it is. -/
def rollupSpace [Quantity α] (agg : Aggregation) (pad : Padding α) : Stage α where
  name := "rollup_space"
  run
    | .list ss => .pure (.series (Series.combine agg pad ss))
    | .series s => .pure (.series s)
    | .empty => .fail (.execution (.needsSeries "rollup_space"))

/-- Each series on the buckets of `[start, stop)`. -/
def pad (clock : Clock) (r : Resolution) (start stop : Int) (pad : Padding α) : Stage α :=
  ofSeries "pad" fun s => s.onto (bucketKeys clock r start stop) pad

/-- Each series inside a recurring window. -/
def filterWindow (w : Window) : Stage α :=
  ofSeries "filter_window" fun s => s.filterWindow w

/-- A value as the output of a stage: a number is spread over the grid, if there is one. -/
def frameOfValue [Quantity α] (e : Expr α) (grid : Option (List Int)) :
    Value α → Except Fault (Frame α)
  | .series s => .ok (.series s)
  | .scalar v =>
      match grid with
      | some keys => .ok (.series (Series.tabulate keys fun _ => v))
      | none => .error (.execution (.scalarWithoutGrid e.display))

/-- **The value of a formula.** -/
def formula [Quantity α] (e : Expr α) (pad : Padding α) (grid : Option (List Int))
    (resolve : Options → Run α (Value α)) : Stage α where
  name := "formula"
  run _ := (e.evaluateWith pad resolve).bind fun v => .ofOutcome (frameOfValue e grid v)

end MetricQuery.Stage
