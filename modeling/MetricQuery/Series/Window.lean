/-
  MetricQuery.Series.Window
  ─────────────────────────
  **RECURRING WINDOWS.**

  A window of some length recurs at a fixed distance from its first start on,
  such as the same five minutes of every day.  Filtering keeps the points that
  fall into one of its occurrences.

    • `Window.checked`        — length and distance have to be positive,
    • `Window.Covers`         — the instants that fall into an occurrence,
    • `Window.sweep`          — one forward pass over ascending points,
    • `Series.filterWindow`   — the points of a series inside the window.
-/
import MetricQuery.Fault
import MetricQuery.Series.Basic
import MetricQuery.Time.Bucket

namespace MetricQuery

/-! ## §1. Windows. -/

/-- Occurrences `[first + n · distance, first + n · distance + length)` for every `n`. -/
structure Window where
  first : Int
  length : Int
  distance : Int
  deriving DecidableEq, Repr

namespace Window

/-- The instant falls into an occurrence of the window. -/
def Covers (w : Window) (t : Int) : Prop :=
  ∃ n : Nat, w.first + n * w.distance ≤ t ∧ t < w.first + n * w.distance + w.length

/-- A window, if its length and its distance are positive. -/
def checked (first length distance : Int) : Except Fault Window :=
  if length ≤ 0 ∨ distance ≤ 0 then .error (.configuration (.badWindow length distance))
  else .ok ⟨first, length, distance⟩

/-- A window at the same time of every day. -/
def daily (first length : Int) : Except Fault Window :=
  checked first length secondsPerDay

/-! ## §2. The sweep. -/

variable {α : Type}

/-- The start of the occurrence that an instant is compared with, given an earlier one that the
sweep has come to: it moves on as soon as the instant lies at or past its end. -/
def advance (w : Window) (start t : Int) : Int :=
  let stop := start + w.length
  if stop ≤ t then start + ((t - stop) / w.distance + 1) * w.distance else start

/-- **The points inside the window,** found in one pass over ascending points. -/
def sweep (w : Window) (start : Int) : List (Int × α) → List (Int × α)
  | [] => []
  | p :: rest =>
      if p.1 < start then sweep w start rest
      else
        -- The window moves on before the point is tested against it.
        let start := w.advance start p.1
        if start ≤ p.1 ∧ p.1 < start + w.length then p :: sweep w start rest
        else sweep w start rest

end Window

namespace Series

variable {α : Type}

/-- The points of the series inside the window. -/
def filterWindow (w : Window) (s : Series α) : Series α :=
  ofPoints (w.sweep w.first s.points)

end Series
end MetricQuery
