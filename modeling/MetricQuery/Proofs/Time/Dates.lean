/-
  MetricQuery.Proofs.Time.Dates
  ─────────────────────────────
  **DAYS STAND FOR LOCAL DATES.**

  The key of a day is its midnight, taken back by an offset that is looked up for
  the midnight alone.  So all instants of a local date have one key, on whichever
  side of a change of the clock they lie.  The offset may differ from date to
  date, but if no two offsets of the zone are a day apart, it cannot make up for
  the day between two midnights: however often and by whatever amounts clocks are
  changed, a later date has a later key.

    • `Clock.dateStart`         — the key of a date,
    • `bucketKey_day`           — the key of an instant is that of its date,
    • `Zone.Close`              — offsets that are less than a day apart,
    • `Close.dateStart_lt`      — later dates have later keys,
    • `days_order_as_dates`     — days are told apart and ordered as local dates are.
-/
import MetricQuery.Proofs.Time.Days

namespace MetricQuery

/-! ## §1. The key of a date. -/

/-- The key of the day of a local date: the instant of its midnight, or of the earlier one. -/
def Clock.dateStart (clock : Clock) (date : Int) : Int :=
  date * secondsPerDay - clock.localOffset (date * secondsPerDay) none

/-- **The key of a day depends on the local date alone.** -/
theorem bucketKey_day (clock : Clock) (t : Int) :
    bucketKey clock .day t = clock.dateStart (clock.dateAt t) := by
  have hmidnight : t + clock.offsetAt t - (t + clock.offsetAt t) % Resolution.day.size =
      clock.dateAt t * secondsPerDay := by
    have hday : Resolution.day.size = secondsPerDay := rfl
    have hsplit := Int.mul_ediv_add_emod (t + clock.offsetAt t) secondsPerDay
    show _ = (t + clock.offsetAt t) / secondsPerDay * secondsPerDay
    rw [hday, Int.mul_comm]
    omega
  show t + clock.offsetAt t - (t + clock.offsetAt t) % Resolution.day.size -
    clock.localOffset _ none = _
  rw [hmidnight]
  rfl

namespace Zone

/-! ## §2. Offsets that are less than a day apart. -/

variable {z : Zone} {t u date later : Int}

/-- All offsets of the zone. -/
def offsets (z : Zone) : List Int :=
  z.initial :: z.transitions.map Transition.offset

/-- Any two offsets of the zone are less than a day apart. -/
def Close (z : Zone) : Prop :=
  ∀ p ∈ z.offsets, ∀ q ∈ z.offsets, p - q < secondsPerDay

instance (z : Zone) : Decidable z.Close := by
  unfold Close
  infer_instance

/-- **The offset chosen for a local time of the calendar is one of the zone.** -/
theorem localOffset_mem_offsets {x : Int} (hx : inCalendar x = true) :
    z.localOffset x none ∈ z.offsets := by
  have hoffsets : ∀ t, offsetFrom z.initial z.transitions t ∈ z.offsets :=
    offsetFrom_induction (P := (· ∈ z.offsets)) List.mem_cons_self fun tr htr =>
      List.mem_cons_of_mem _ (List.mem_map_of_mem htr)
  refine localOffset_induction (P := (· ∈ z.offsets)) hoffsets ?_ ?_
  · intro p hp
    cases hp
  · intro hout
    rw [hx] at hout
    cases hout

/-- The calendar begins with a midnight, so a date of the calendar has its midnight there. -/
theorem inCalendar_midnight (h : inCalendar (z.clock.localTime t) = true) :
    inCalendar (z.clock.dateAt t * secondsPerDay) = true := by
  rw [inCalendar_iff] at h ⊢
  simp only [Clock.dateAt, secondsPerDay, calendarFirst, calendarLast] at h ⊢
  omega

/-- **Later dates have later keys.**  From one midnight to the other local time moves on by a day at
least, and the offsets differ by less. -/
theorem Close.dateStart_lt (h : z.Close) (hdate : inCalendar (date * secondsPerDay) = true)
    (hlater : inCalendar (later * secondsPerDay) = true) (hlt : date < later) :
    z.clock.dateStart date < z.clock.dateStart later := by
  have hoffset : z.localOffset (later * secondsPerDay) none -
      z.localOffset (date * secondsPerDay) none < secondsPerDay :=
    h _ (localOffset_mem_offsets hlater) _ (localOffset_mem_offsets hdate)
  have hmidnight : date * secondsPerDay + secondsPerDay ≤ later * secondsPerDay := by
    simp only [secondsPerDay]
    omega
  show date * secondsPerDay - z.localOffset (date * secondsPerDay) none <
    later * secondsPerDay - z.localOffset (later * secondsPerDay) none
  omega

/-! ## §3. Days and dates. -/

/-- **Days are told apart and ordered as local dates are,** in every zone whose offsets are less
than a day apart, wherever local time is in the calendar. -/
theorem days_order_as_dates (h : z.Close) (ht : inCalendar (z.clock.localTime t) = true)
    (hu : inCalendar (z.clock.localTime u) = true) :
    (bucketKey z.clock .day t = bucketKey z.clock .day u ↔ z.clock.dateAt t = z.clock.dateAt u) ∧
      (z.clock.dateAt t < z.clock.dateAt u →
        bucketKey z.clock .day t < bucketKey z.clock .day u) := by
  rw [bucketKey_day, bucketKey_day]
  have hforth := h.dateStart_lt (inCalendar_midnight ht) (inCalendar_midnight hu)
  have hback := h.dateStart_lt (inCalendar_midnight hu) (inCalendar_midnight ht)
  refine ⟨⟨?_, fun hdate => by rw [hdate]⟩, hforth⟩
  intro hkey
  -- Of two different dates one is the later one, and so is its key.
  rcases Int.lt_trichotomy (z.clock.dateAt t) (z.clock.dateAt u) with hlt | heq | hgt
  · have hne := hforth hlt
    omega
  · exact heq
  · have hne := hback hgt
    omega

/-- When clocks at Casey were put back from three to midnight, the day that was under way had its
midnight a second time.  Its instants before the change and its last one, 27 hours after the first
midnight, are in one day, and the second after that is in a later one. -/
theorem days_order_as_dates_casey :
    casey.Close ∧
      bucketKey casey.clock .day 1552751000 = bucketKey casey.clock .day 1552838399 ∧
      bucketKey casey.clock .day 1552838399 < bucketKey casey.clock .day 1552838400 := by
  have hclose : casey.Close := by decide +kernel
  have hsame := days_order_as_dates (t := 1552751000) (u := 1552838399) hclose (by decide +kernel)
    (by decide +kernel)
  have hnext := days_order_as_dates (t := 1552838399) (u := 1552838400) hclose (by decide +kernel)
    (by decide +kernel)
  exact ⟨hclose, hsame.1.2 (by decide +kernel), hnext.2 (by decide +kernel)⟩

end Zone
end MetricQuery
