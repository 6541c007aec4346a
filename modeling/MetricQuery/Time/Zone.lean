/-
  MetricQuery.Time.Zone
  ─────────────────────
  **TIME ZONES AS TABLES OF OFFSET CHANGES.**

  Instants are seconds in universal time, local times are seconds as a wall
  clock shows them, and an offset is local minus universal.  A zone has an
  offset from the beginning of time and a list of instants at which another
  offset takes effect.  A local time may be shown once, twice (when clocks go
  back) or never (when they go forward).

    • `Zone.offsetAt`     — the offset in effect at an instant,
    • `Zone.candidates`   — the offsets under which a local time is shown,
    • `Zone.localOffset`  — the one offset chosen for a local time,
    • `Clock`             — the two look-ups alone, which is all that bucketing needs.
-/
namespace MetricQuery

/-! ## §1. The two look-ups. -/

/-- What bucketing asks of a zone: the offset at an instant, and the offset for a local time, given
the offset that is preferred should the local time be shown twice. -/
structure Clock where
  offsetAt : Int → Int
  localOffset : Int → Option Int → Int

/-- A clock that is always the same distance ahead of universal time. -/
def Clock.fixed (offset : Int) : Clock :=
  ⟨fun _ => offset, fun _ _ => offset⟩

/-! ## §2. The calendar. -/

/-- The first second of the calendar: the years before it have no dates. -/
def calendarFirst : Int := -8334601228800

/-- The last second of the calendar. -/
def calendarLast : Int := 8210266876799

/-- Seconds that have a date. -/
def inCalendar (t : Int) : Bool :=
  calendarFirst ≤ t && t ≤ calendarLast

theorem inCalendar_iff {t : Int} :
    inCalendar t = true ↔ calendarFirst ≤ t ∧ t ≤ calendarLast := by
  simp [inCalendar]

/-! ## §3. Zones. -/

/-- From `instant` on, `offset` is in effect. -/
structure Transition where
  instant : Int
  offset : Int
  deriving DecidableEq, Repr

/-- A named table of offsets. -/
structure Zone where
  name : String
  /-- The offset before the first transition. -/
  initial : Int
  transitions : List Transition
  /-- Transitions are listed in the order in which they happen. -/
  ascending : transitions.Pairwise (fun a b => a.instant < b.instant) := by decide +kernel

namespace Zone

/-- A zone without transitions. -/
def fixed (name : String) (offset : Int) : Zone :=
  { name, initial := offset, transitions := [] }

/-- The offset in effect at an instant, of a table that starts with `offset`. -/
def offsetFrom (offset : Int) : List Transition → Int → Int
  | [], _ => offset
  | tr :: rest, t => if t < tr.instant then offset else offsetFrom tr.offset rest t

/-- The offset in effect at an instant.  Outside the calendar there are no local times, and
universal time is used. -/
def offsetAt (z : Zone) (t : Int) : Int :=
  if inCalendar t then offsetFrom z.initial z.transitions t else 0

/-- The offset applies to the instant at which it would show the local time, which is not before
the beginning of its span. -/
def startsBy (start : Option Int) (instant : Int) : Bool :=
  match start with
  | none => true
  | some b => b ≤ instant

/-- The offsets whose span shows the local time, of a table whose first span has `offset` and
starts at `start`. -/
def candidatesFrom (start : Option Int) (offset : Int) : List Transition → Int → List Int
  | [], localTime => if startsBy start (localTime - offset) then [offset] else []
  | tr :: rest, localTime =>
      -- The span of `offset` ends where the transition happens.
      let later := candidatesFrom (some tr.instant) tr.offset rest localTime
      if startsBy start (localTime - offset) && localTime - offset < tr.instant then
        offset :: later
      else later

/-- The offsets under which the local time is shown, in the order of their spans. -/
def candidates (z : Zone) (localTime : Int) : List Int :=
  candidatesFrom none z.initial z.transitions localTime

/-- How far back the last local time before a gap is looked for. -/
def gapSearchMinutes : Nat := 180

/-- The offset of the last local time before a gap, searched by the minute.  A local time shown
twice counts as its later instant. -/
def offsetBeforeGap (z : Zone) (localTime : Int) : Option Int :=
  (List.range gapSearchMinutes).findSome? fun m =>
    let candidate := localTime - 60 * (m + 1 : Nat)
    if inCalendar candidate then (z.candidates candidate).min? else none

/-- **The offset chosen for a local time.**  Shown twice, the time takes the preferred offset if
that is one of the two, and else the earlier instant.  Never shown, it takes the offset in effect
before the gap, which moves it onto the transition. -/
def localOffset (z : Zone) (localTime : Int) (preferred : Option Int) : Int :=
  if inCalendar localTime then
    match z.candidates localTime with
    -- Never shown.
    | [] => ((z.offsetBeforeGap localTime).or preferred).getD (z.offsetAt localTime)
    | o :: os =>
        -- Of two instants with the same local time the earlier one has the larger offset.
        match preferred with
        | some p => if p ∈ o :: os then p else os.foldl max o
        | none => os.foldl max o
  else preferred.getD (z.offsetAt localTime)

/-- The look-ups of a zone. -/
def clock (z : Zone) : Clock :=
  ⟨z.offsetAt, z.localOffset⟩

end Zone
end MetricQuery
