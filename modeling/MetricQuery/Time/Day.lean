/-
  MetricQuery.Time.Day
  ────────────────────
  **DAYS OF UNIVERSAL TIME.**

  Instants are numbers of 64 bits, and so are the midnights that name their days.
  Some hours pass from the least of these numbers to the first midnight among
  them.  An instant in those hours has its midnight before the least number, so
  the difference wraps around, and the day is named by a number far in the
  future.  Day and second together tell the instant all the same.

    • `midnight`           — the last midnight up to a time, of whatever size,
    • `wrapInt64`          — a number cut down to 64 bits,
    • `dayFloor`, `secondOfDay`, `instantOf` — an instant taken apart and put together,
    • `instantOf_dayFloor` — nothing is lost on the way,
    • `dayFloor_mono`      — from the first midnight on, later instants have later days,
    • `dayFloor_lt_of_lt_firstMidnight` — and those before it have the last day of all.
-/
namespace MetricQuery

/-! ## §1. Midnights. -/

/-- Seconds in a day. -/
def secondsPerDay : Int := 86400

/-- The last midnight up to a time. -/
def midnight (t : Int) : Int :=
  t - t % secondsPerDay

theorem midnight_le (t : Int) : midnight t ≤ t := by
  simp only [midnight, secondsPerDay]
  omega

theorem lt_midnight_add (t : Int) : t < midnight t + secondsPerDay := by
  simp only [midnight, secondsPerDay]
  omega

theorem midnight_mono {t u : Int} (h : t ≤ u) : midnight t ≤ midnight u := by
  simp only [midnight, secondsPerDay]
  omega

/-! ## §2. Numbers of 64 bits. -/

/-- The number fits into 64 bits. -/
def FitsInt64 (n : Int) : Prop :=
  -9223372036854775808 ≤ n ∧ n ≤ 9223372036854775807

instance (n : Int) : Decidable (FitsInt64 n) :=
  inferInstanceAs (Decidable (_ ∧ _))

theorem fits_of_between {lo n hi : Int} (hlo : FitsInt64 lo) (hhi : FitsInt64 hi) (hlon : lo ≤ n)
    (hnhi : n ≤ hi) : FitsInt64 n :=
  ⟨Int.le_trans hlo.1 hlon, Int.le_trans hnhi hhi.2⟩

/-- What 64 bits keep of a number: the one number that fits and differs from it by a multiple of
their range. -/
def wrapInt64 (n : Int) : Int :=
  (n + 9223372036854775808) % 18446744073709551616 - 9223372036854775808

theorem wrapInt64_of_fits {n : Int} (h : FitsInt64 n) : wrapInt64 n = n := by
  simp only [FitsInt64] at h
  simp only [wrapInt64]
  omega

theorem fits_wrapInt64 (n : Int) : FitsInt64 (wrapInt64 n) := by
  simp only [FitsInt64, wrapInt64]
  omega

/-- A number below the range by less than its length comes out above. -/
theorem wrapInt64_of_lt {n : Int} (hlt : n < -9223372036854775808)
    (hge : -27670116110564327424 ≤ n) : wrapInt64 n = n + 18446744073709551616 := by
  simp only [wrapInt64]
  omega

/-! ## §3. Instants, days and seconds. -/

/-- **The day of an instant,** named by its midnight as far as 64 bits can tell. -/
def dayFloor (t : Int) : Int :=
  -- Outside of 64 bits there are no instants; each would be a day of its own.
  if FitsInt64 t then wrapInt64 (midnight t) else t

/-- The second within its day at which an instant lies. -/
def secondOfDay (t : Int) : Nat :=
  (wrapInt64 (t - dayFloor t)).toNat

/-- The instant at a second of a day.  The sum may wrap around, too. -/
def instantOf (day : Int) (second : Nat) : Int :=
  if FitsInt64 day then wrapInt64 (day + second) else day + second

theorem dayFloor_of_not_fits {t : Int} (h : ¬ FitsInt64 t) : dayFloor t = t :=
  if_neg h

theorem secondOfDay_of_fits {t : Int} (h : FitsInt64 t) :
    (secondOfDay t : Int) = t % secondsPerDay := by
  rw [secondOfDay, dayFloor, if_pos h]
  simp only [FitsInt64, wrapInt64, midnight, secondsPerDay] at *
  omega

/-- **Day and second tell the instant,** also where the midnight wrapped around. -/
theorem instantOf_dayFloor (t : Int) : instantOf (dayFloor t) (secondOfDay t) = t := by
  by_cases h : FitsInt64 t
  · rw [instantOf, secondOfDay_of_fits h, dayFloor, if_pos h, if_pos (fits_wrapInt64 _)]
    simp only [FitsInt64, wrapInt64, midnight, secondsPerDay] at *
    omega
  · have hzero : secondOfDay t = 0 := by
      rw [secondOfDay, dayFloor_of_not_fits h, Int.sub_self]
      rfl
    rw [instantOf, dayFloor_of_not_fits h, if_neg h, hzero]
    exact Int.add_zero t

theorem eq_of_day_of_second {t u : Int} (hd : dayFloor t = dayFloor u)
    (hs : secondOfDay t = secondOfDay u) : t = u := by
  rw [← instantOf_dayFloor t, ← instantOf_dayFloor u, hd, hs]

/-! ## §4. The order of days. -/

/-- The first midnight that 64 bits can hold. -/
def firstMidnight : Int :=
  midnight (-9223372036854775808) + secondsPerDay

theorem firstMidnight_eq : firstMidnight = -9223372036854720000 := by
  decide

theorem fits_firstMidnight : FitsInt64 firstMidnight := by
  decide

/-- From the first midnight on the day is named by its midnight. -/
theorem dayFloor_eq_midnight {t : Int} (hfirst : firstMidnight ≤ t) (h : FitsInt64 t) :
    dayFloor t = midnight t := by
  rw [firstMidnight_eq] at hfirst
  rw [dayFloor, if_pos h]
  refine wrapInt64_of_fits ?_
  simp only [FitsInt64, midnight, secondsPerDay] at *
  omega

/-- Before the first midnight there is one day, and its name comes after all midnights. -/
theorem dayFloor_of_lt_firstMidnight {t : Int} (h : FitsInt64 t) (hfirst : t < firstMidnight) :
    dayFloor t = firstMidnight - secondsPerDay + 18446744073709551616 := by
  rw [firstMidnight_eq] at *
  have hmidnight : midnight t = -9223372036854720000 - secondsPerDay := by
    simp only [FitsInt64, midnight, secondsPerDay] at *
    omega
  rw [dayFloor, if_pos h, hmidnight]
  exact wrapInt64_of_lt (by decide) (by decide)

theorem dayFloor_le {t : Int} (hfirst : firstMidnight ≤ t) : dayFloor t ≤ t := by
  by_cases h : FitsInt64 t
  · rw [dayFloor_eq_midnight hfirst h]
    exact midnight_le t
  · exact Int.le_of_eq (dayFloor_of_not_fits h)

/-- **From the first midnight on, later instants have later days.** -/
theorem dayFloor_mono {t u : Int} (hfirst : firstMidnight ≤ t) (h : t ≤ u) :
    dayFloor t ≤ dayFloor u := by
  by_cases hu : FitsInt64 u
  · have ht : FitsInt64 t := fits_of_between fits_firstMidnight hu hfirst h
    rw [dayFloor_eq_midnight hfirst ht, dayFloor_eq_midnight (Int.le_trans hfirst h) hu]
    exact midnight_mono h
  · rw [dayFloor_of_not_fits hu]
    exact Int.le_trans (dayFloor_le hfirst) h

/-- Of two instants before the first midnight the later one has no earlier day either. -/
theorem dayFloor_mono_of_lt_firstMidnight {t u : Int} (h : t ≤ u) (hfirst : u < firstMidnight) :
    dayFloor t ≤ dayFloor u := by
  by_cases ht : FitsInt64 t
  · have hu : FitsInt64 u := fits_of_between ht fits_firstMidnight h (Int.le_of_lt hfirst)
    refine Int.le_of_eq ?_
    rw [dayFloor_of_lt_firstMidnight ht (Int.lt_of_le_of_lt h hfirst),
      dayFloor_of_lt_firstMidnight hu hfirst]
  · rw [dayFloor_of_not_fits ht]
    by_cases hu : FitsInt64 u
    · rw [dayFloor_of_lt_firstMidnight hu hfirst]
      simp only [firstMidnight_eq, secondsPerDay] at *
      omega
    · rw [dayFloor_of_not_fits hu]
      exact h

end MetricQuery
