/-
  MetricQuery.Resolution
  ──────────────────────
  **BUCKET SIZES.**

  Samples are grouped into buckets of one of five sizes, from a minute to a day.

    • `Resolution.ofSeconds`             — the size of so many seconds, if there is one,
    • `Resolution.ofSeconds_eq_some_iff` — it finds the size and no other,
    • `Resolution.checked`               — the same, with the failure named.
-/
import MetricQuery.Fault

namespace MetricQuery

/-- The size of a time bucket. -/
inductive Resolution where
  | minute
  | fiveMinutes
  | fifteenMinutes
  | hour
  | day
  deriving DecidableEq, Repr

namespace Resolution

/-- Every size, ascending. -/
def all : List Resolution :=
  [minute, fiveMinutes, fifteenMinutes, hour, day]

/-- The size in seconds. -/
def seconds : Resolution → Nat
  | minute => 60
  | fiveMinutes => 300
  | fifteenMinutes => 900
  | hour => 3600
  | day => 86400

/-- The size of so many seconds. -/
def ofSeconds (n : Nat) : Option Resolution :=
  all.find? fun r => r.seconds == n

/-- **Seconds and sizes determine each other.** -/
theorem ofSeconds_eq_some_iff {n : Nat} {r : Resolution} :
    ofSeconds n = some r ↔ r.seconds = n := by
  constructor
  · intro h
    simpa using List.find?_some h
  · rintro rfl
    cases r <;> rfl

/-- The size of so many seconds, or the failure that names them. -/
def checked (n : Nat) : Except Fault Resolution :=
  match ofSeconds n with
  | some r => .ok r
  | none => .error (.unsupportedResolution n)

/-- A size as a text, in seconds. -/
def display (r : Resolution) : String :=
  toString r.seconds ++ "s"

/-- The sizes larger than this one, ascending. -/
def larger (r : Resolution) : List Resolution :=
  all.filter fun s => r.seconds < s.seconds

end Resolution
end MetricQuery
