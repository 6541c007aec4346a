/-
  MetricQuery.Pipeline.Frame
  ──────────────────────────
  **WHAT PASSES FROM ONE STAGE TO THE NEXT.**

  A frame is nothing at all, one series, or a list of series.

    • `Frame.mapSeries`  — a function on series, on one or on each of a list,
    • `Frame.single`     — the one series that a frame carries,
    • `Frame.pointCount` — how many points it carries.
-/
import MetricQuery.Fault
import MetricQuery.Series.Basic

namespace MetricQuery

/-- The input and the output of a stage. -/
inductive Frame (α : Type) where
  | empty
  | series (series : Series α)
  | list (list : List (Series α))

namespace Frame

variable {α : Type}

/-- A function on series, applied to the one series or to each of the list.  The stage that asks
for it is named when there is none. -/
def mapSeries (stage : String) (f : Series α → Series α) : Frame α → Except Fault (Frame α)
  | series s => .ok (series (f s))
  | list ss => .ok (list (ss.map f))
  | empty => .error (.execution (.needsSeries stage))

/-- The one series that the frame carries. -/
def single : Frame α → Except Fault (Series α)
  | series s => .ok s
  | list _ => .error (.execution .listInsteadOfSeries)
  | empty => .error (.execution .nothingInsteadOfSeries)

/-- All the series that the frame carries, in order; none if it is empty. -/
def all? : Frame α → Option (List (Series α))
  | series s => some [s]
  | list ss => some ss
  | empty => none

/-- How many points the frame carries. -/
def pointCount : Frame α → Nat
  | empty => 0
  | series s => s.size
  | list ss => ss.foldl (fun n s => n + s.size) 0

end Frame
end MetricQuery
