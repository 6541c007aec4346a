/-
  MetricQuery.Proofs.Time.Days
  ────────────────────────────
  **DAYS OF THE LOCAL CALENDAR.**

  A day may last from 21 to 27 hours, its midnight may be skipped or come twice,
  and a change of the clock may end right at it.  If clocks are changed by three
  hours at most, no two changes are closer than three days, and no change skips
  or repeats a midnight but as its first local second, a day starts at the first
  instant of its local date, the next one at the first instant of the next date,
  and a grid lists the first instants of all dates.

    • `Clock.dateAt`             — the local date of an instant,
    • `Change.KeepsMidnight`     — the condition on one change,
    • `Change.bucketKey_le_iff`  — days of a clock that changes once,
    • `Zone.Daily`               — the condition on a zone,
    • `Daily.bucketKey_le_iff`, `Daily.nextBucketKey_le_iff` — days are reached where dates are,
    • `days_of_local_dates`      — days and grids by first instants of local dates,
    • `kolkata_last_day`         — the end of the calendar, where a step leaves it.
-/
import MetricQuery.Proofs.Time.Paced
import MetricQuery.Time.Catalog

namespace MetricQuery

/-! ## §1. Local dates. -/

/-- The local date of an instant, counted in days. -/
def Clock.dateAt (clock : Clock) (t : Int) : Int :=
  clock.localTime t / secondsPerDay

/-- A date is reached at its midnight. -/
theorem Clock.dateAt_le_iff {clock : Clock} {t u : Int} :
    clock.dateAt t ≤ clock.dateAt u ↔ midnight (clock.localTime t) ≤ clock.localTime u := by
  simp only [dateAt, midnight, secondsPerDay]
  omega

/-- The instant is the first one of its local date. -/
def Clock.StartsDate (clock : Clock) (t : Int) : Prop :=
  IsLeast {u | clock.dateAt u = clock.dateAt t} t

/-! ## §2. One change. -/

namespace Change

variable {c : Change} {t u : Int}

/-- No midnight is skipped or repeated, but as the first local second that is. -/
def KeepsMidnight (c : Change) : Prop :=
  ∀ m, m % secondsPerDay = 0 → min (c.instant + c.before) (c.instant + c.after) ≤ m →
    m < max (c.instant + c.before) (c.instant + c.after) →
    m = min (c.instant + c.before) (c.instant + c.after)

/-- The local times that are skipped or repeated end by the next midnight. -/
theorem keepsMidnight_iff :
    c.KeepsMidnight ↔ max (c.instant + c.before) (c.instant + c.after) ≤
      midnight (min (c.instant + c.before) (c.instant + c.after)) + secondsPerDay := by
  unfold KeepsMidnight
  generalize min (c.instant + c.before) (c.instant + c.after) = first
  generalize max (c.instant + c.before) (c.instant + c.after) = last
  constructor
  · intro h
    by_contra hn
    have hle := lt_midnight_add first
    have hmod : (midnight first + secondsPerDay) % secondsPerDay = 0 := by
      simp only [midnight, secondsPerDay]
      omega
    have heq := h _ hmod (by omega) (by omega)
    omega
  · intro h m hmod hle hlt
    simp only [midnight, secondsPerDay] at h hmod
    omega

instance (c : Change) : Decidable c.KeepsMidnight :=
  decidable_of_iff _ keepsMidnight_iff.symm

/-- A change of nothing keeps every midnight. -/
theorem keepsMidnight_of_shift_eq_zero (h : c.shift = 0) : c.KeepsMidnight := by
  intro m _ hle hlt
  simp only [shift] at h
  omega

theorem localTime_clock_of_lt (h : t < c.instant) : c.clock.localTime t = t + c.before :=
  congrArg (t + ·) (offsetAt_clock_of_lt h)

theorem localTime_clock_of_le (h : c.instant ≤ t) : c.clock.localTime t = t + c.after :=
  congrArg (t + ·) (offsetAt_clock_of_le h)

/-- The three ways in which a day gets its key, by the midnight of the instant. -/
theorem bucketKey_day_cases (c : Change) (t : Int) :
    (t < c.instant ∧ bucketKey c.clock .day t = midnight (c.clock.localTime t) - c.before) ∨
    (c.instant ≤ t ∧ c.instant ≤ midnight (c.clock.localTime t) - c.after ∧
      c.instant ≤ midnight (c.clock.localTime t) - c.before ∧
      bucketKey c.clock .day t = midnight (c.clock.localTime t) - c.after) ∨
    (c.instant ≤ t ∧ (midnight (c.clock.localTime t) - c.after < c.instant ∨
        midnight (c.clock.localTime t) - c.before < c.instant) ∧
      bucketKey c.clock .day t = midnight (c.clock.localTime t) - c.before) := by
  have hday : Resolution.day.size = secondsPerDay := rfl
  have hshift : c.shift = c.after - c.before := rfl
  unfold midnight
  rcases bucketKey_cases c .day t with ⟨hlt, heq⟩ | ⟨hle, hlater, heq⟩ | ⟨hle, hearlier, heq⟩
  · rw [localTime_clock_of_lt hlt, heq, hday]
    exact Or.inl ⟨hlt, by omega⟩
  · have hnonneg := Int.emod_nonneg (t + c.after) (Int.ne_of_gt Resolution.day.size_pos)
    have hresume := hlater rfl
    rw [localTime_clock_of_le (by omega), heq]
    rw [hday] at hle hresume hnonneg ⊢
    exact Or.inr (Or.inl ⟨by omega, by omega, by omega, by omega⟩)
  · rw [localTime_clock_of_le hle, heq]
    rw [hday] at hearlier ⊢
    exact Or.inr (Or.inr ⟨hle, by omega, by omega⟩)

/-- **Days of a clock that changes once** start where their midnight is reached. -/
theorem bucketKey_le_iff (hkeeps : c.KeepsMidnight) :
    bucketKey c.clock .day t ≤ u ↔ midnight (c.clock.localTime t) ≤ c.clock.localTime u := by
  have hle := midnight_le (c.clock.localTime t)
  -- The midnight of `t` is not one that a change skips or repeats but as its first local second.
  have hmidnight := hkeeps (midnight (c.clock.localTime t))
    (by simp only [midnight, secondsPerDay]; omega)
  rcases bucketKey_day_cases c t with ⟨ht, heq⟩ | ⟨ht, hnew, hold, heq⟩ | ⟨ht, hold, heq⟩
  · -- The day is under way before the change, which does not show its midnight once more.
    have hshown := localTime_clock_of_lt ht
    rcases lt_or_ge u c.instant with hu | hu
    · have hshown' := localTime_clock_of_lt hu
      omega
    · have hshown' := localTime_clock_of_le hu
      omega
  · -- The day starts after the change, by either offset.
    rcases lt_or_ge u c.instant with hu | hu
    · have hshown' := localTime_clock_of_lt hu
      omega
    · have hshown' := localTime_clock_of_le hu
      omega
  · -- The midnight is skipped, or is shown before the change, and by the new offset at it at most.
    have hshown := localTime_clock_of_le ht
    rcases lt_or_ge u c.instant with hu | hu
    · have hshown' := localTime_clock_of_lt hu
      omega
    · have hshown' := localTime_clock_of_le hu
      omega

/-- A day starts at its midnight, or as long after it as the clock is put forward. -/
theorem localTime_bucketKey_le (hsmall : c.Small) :
    c.clock.localTime (bucketKey c.clock .day t) ≤ midnight (c.clock.localTime t) + 10800 := by
  obtain ⟨hback, hforth⟩ := hsmall
  have hshift : c.shift = c.after - c.before := rfl
  rcases lt_or_ge (bucketKey c.clock .day t) c.instant with hkey | hkey
  · rw [localTime_clock_of_lt hkey]
    rcases bucketKey_day_cases c t with ⟨-, heq⟩ | ⟨-, hnew, -, heq⟩ | ⟨-, -, heq⟩
    · omega
    · omega
    · omega
  · rw [localTime_clock_of_le hkey]
    rcases bucketKey_day_cases c t with ⟨-, heq⟩ | ⟨-, -, -, heq⟩ | ⟨-, -, heq⟩
    · omega
    · omega
    · omega

end Change

/-! ## §3. Days of a zone.

The look-ups of a day stay in the calendar if its instants are inside by a day and three hours,
97200 seconds, and those of the next day if they are inside by 108000 and 145800 seconds, which
leaves room for what local time may lose and gain in a day and a half. -/

namespace Zone

/-- A paced zone whose changes keep every midnight. -/
structure Daily (z : Zone) : Prop extends z.Paced where
  keeps : ∀ c ∈ z.changes, c.KeepsMidnight

variable {z : Zone} {t u start stop : Int}

/-- The days around an instant are those of a change that keeps its midnight. -/
theorem Daily.exists_change_day (h : z.Daily) (hin : z.Inside 97200 0 t) :
    ∃ c : Change, c.Small ∧ c.KeepsMidnight ∧
      bucketKey z.clock .day t = bucketKey c.clock .day t ∧
      ∀ u, t - 216000 ≤ u → u < t + 43200 → inCalendar u = true →
        z.clock.localTime u = c.clock.localTime u := by
  obtain ⟨c, hc, hsmall, hlocal, hkeys⟩ := h.exists_change t
  refine ⟨c, hsmall, ?_, hkeys .day t (by omega) (by omega) hin, hlocal⟩
  rcases hc with ⟨hmem, -⟩ | hzero
  · exact h.keeps c hmem
  · exact Change.keepsMidnight_of_shift_eq_zero hzero

/-- **A day is reached where its local date is.** -/
theorem Daily.bucketKey_le_iff (h : z.Daily) (hin : z.Inside 97200 0 t) :
    bucketKey z.clock .day t ≤ u ↔ z.clock.dateAt t ≤ z.clock.dateAt u := by
  have hspan : pacedSpan = 259200 := rfl
  obtain ⟨c, hsmall, hkeepsc, hkey, hlocal⟩ := h.exists_change_day hin
  have hcalendar := hin.inCalendar (by omega) (Int.le_refl 0)
  have hnear := Change.bucketKey_near hsmall .day t
  have hself : bucketKey c.clock .day t ≤ t :=
    (Change.bucketKey_le_iff hkeepsc).2 (midnight_le _)
  rw [Clock.dateAt_le_iff, hkey]
  by_cases hu : inCalendar u = true
  · by_cases hwindow : t - 216000 ≤ u ∧ u < t + 43200
    · rw [hlocal t (by omega) (by omega) hcalendar, hlocal u hwindow.1 hwindow.2 hu]
      exact Change.bucketKey_le_iff hkeepsc
    · -- Further away local time has moved on by more than a day, or is later at least.
      rw [localTime_clock hcalendar, localTime_clock hu]
      have hfloor := midnight_le (z.wallTime t)
      have hceil := lt_midnight_add (z.wallTime t)
      have hspd : secondsPerDay = 86400 := rfl
      rcases Int.le_total t u with hle | hle
      · have hbounds := h.wallTime_bounds hle
        omega
      · have hbounds := h.wallTime_bounds hle
        omega
  · -- Outside of the calendar clocks show universal time.
    have hzero : z.clock.localTime u = u := by
      show u + z.offsetAt u = u
      unfold offsetAt
      rw [if_neg hu]
      omega
    rw [inCalendar_iff] at hu
    obtain ⟨hfirst, hlast, hlocalFirst, hlocalLast⟩ := hin
    rw [hzero]
    simp only [midnight, secondsPerDay]
    omega

/-- A day starts with its local date, by three hours after midnight. -/
theorem Daily.localTime_bucketKey (h : z.Daily) (hin : z.Inside 97200 0 t) :
    inCalendar (bucketKey z.clock .day t) = true ∧
      midnight (z.clock.localTime t) ≤ z.clock.localTime (bucketKey z.clock .day t) ∧
      z.clock.localTime (bucketKey z.clock .day t) ≤ midnight (z.clock.localTime t) + 10800 := by
  obtain ⟨c, hsmall, hkeepsc, hkey, hlocal⟩ := h.exists_change_day hin
  have hnear := Change.bucketKey_near hsmall .day t
  have hself : bucketKey c.clock .day t ≤ t :=
    (Change.bucketKey_le_iff hkeepsc).2 (midnight_le _)
  have hcalendar : inCalendar (bucketKey c.clock .day t) = true := by
    have hfirst := hin.first
    have hlast := hin.last
    rw [inCalendar_iff]
    omega
  rw [hkey, hlocal _ (by omega) (by omega) hcalendar,
    hlocal t (by omega) (by omega) (hin.inCalendar (by omega) (Int.le_refl 0))]
  exact ⟨hcalendar, (Change.bucketKey_le_iff hkeepsc).1 (Int.le_refl _),
    Change.localTime_bucketKey_le hsmall⟩

theorem Daily.dateAt_bucketKey (h : z.Daily)
    (hin : z.Inside 97200 0 t) : z.clock.dateAt (bucketKey z.clock .day t) = z.clock.dateAt t := by
  obtain ⟨-, hge, hle⟩ := h.localTime_bucketKey hin
  simp only [Clock.dateAt, midnight, secondsPerDay] at hge hle ⊢
  omega

/-- A day and a half after the start of a day it is the day after. -/
theorem Daily.dateAt_hop (h : z.Daily) (hin : z.Inside 108000 145800 t) :
    z.Inside 97200 0 (bucketKey z.clock .day t + 129600) ∧
      z.clock.dateAt (bucketKey z.clock .day t + 129600) = z.clock.dateAt t + 1 := by
  have hspan : pacedSpan = 259200 := rfl
  have hin' : z.Inside 97200 0 t := hin.mono (by omega) (by omega)
  obtain ⟨c, hsmall, -, hkey, -⟩ := h.exists_change_day hin'
  have hnear := Change.bucketKey_near hsmall .day t
  obtain ⟨hcalendar, hge, hle⟩ := h.localTime_bucketKey hin'
  have hself : bucketKey z.clock .day t ≤ t := (h.bucketKey_le_iff hin').2 (Int.le_refl _)
  have hprobe : z.Inside 97200 0 (bucketKey z.clock .day t + 129600) :=
    h.inside_of_near hin 0 129600 (by omega) (by omega) (by omega) (Int.le_refl 0)
      ⟨by omega, by omega⟩ ⟨by omega, by omega⟩
  refine ⟨hprobe, ?_⟩
  have hbounds := h.wallTime_bounds (t := bucketKey z.clock .day t)
    (u := bucketKey z.clock .day t + 129600) (by omega)
  rw [← localTime_clock hcalendar,
    ← localTime_clock (hprobe.inCalendar (by omega) (Int.le_refl 0))] at hbounds
  simp only [Clock.dateAt, midnight, secondsPerDay] at hge hle ⊢
  omega

/-- So a hop of a day and a half leads into the next day. -/
theorem Daily.nextBucketKey_eq (h : z.Daily) (hin : z.Inside 108000 145800 t) :
    nextBucketKey z.clock .day (bucketKey z.clock .day t) =
      bucketKey z.clock .day (bucketKey z.clock .day t + 129600) := by
  obtain ⟨hprobe, hdate⟩ := h.dateAt_hop hin
  have hkey := h.dateAt_bucketKey (hin.mono (by omega) (by omega))
  have hday : Resolution.day.size + Resolution.day.size / 2 = 129600 := by decide
  unfold nextBucketKey
  rw [show bucketKey z.clock .day t + Resolution.day.size + Resolution.day.size / 2 =
    bucketKey z.clock .day t + 129600 by omega]
  refine if_neg ?_
  rw [h.bucketKey_le_iff hprobe, hdate, hkey]
  omega

/-- **The next day is reached where the next local date is.** -/
theorem Daily.nextBucketKey_le_iff (h : z.Daily) (hin : z.Inside 108000 145800 t) :
    nextBucketKey z.clock .day (bucketKey z.clock .day t) ≤ u ↔
      z.clock.dateAt t + 1 ≤ z.clock.dateAt u := by
  obtain ⟨hprobe, hdate⟩ := h.dateAt_hop hin
  rw [h.nextBucketKey_eq hin, h.bucketKey_le_iff hprobe, hdate]

/-- The next day starts with the next local date. -/
theorem Daily.dateAt_nextBucketKey (h : z.Daily) (hin : z.Inside 108000 145800 t) :
    z.clock.dateAt (nextBucketKey z.clock .day (bucketKey z.clock .day t)) =
      z.clock.dateAt t + 1 := by
  obtain ⟨hprobe, hdate⟩ := h.dateAt_hop hin
  rw [h.nextBucketKey_eq hin, h.dateAt_bucketKey hprobe, hdate]

/-! ## §4. First instants of dates. -/

/-- What is reached where a date is, and has that date, is the first instant of the date. -/
theorem isLeast_of_le_iff {clock : Clock} {key date : Int} (hdate : clock.dateAt key = date)
    (hle : ∀ u, key ≤ u ↔ date ≤ clock.dateAt u) : IsLeast {u | clock.dateAt u = date} key := by
  refine ⟨hdate, ?_⟩
  intro u hu
  exact (hle u).2 (Int.le_of_eq (Eq.symm hu))

/-- **A day starts at the first instant of its local date.** -/
theorem Daily.isLeast_bucketKey (h : z.Daily) (hin : z.Inside 97200 0 t) :
    IsLeast {u | z.clock.dateAt u = z.clock.dateAt t} (bucketKey z.clock .day t) :=
  isLeast_of_le_iff (h.dateAt_bucketKey hin) fun _ => h.bucketKey_le_iff hin

/-- **The next day starts at the first instant of the next local date.** -/
theorem Daily.isLeast_nextBucketKey (h : z.Daily) (hin : z.Inside 108000 145800 t) :
    IsLeast {u | z.clock.dateAt u = z.clock.dateAt t + 1}
      (nextBucketKey z.clock .day (bucketKey z.clock .day t)) :=
  isLeast_of_le_iff (h.dateAt_nextBucketKey hin) fun _ => h.nextBucketKey_le_iff hin

/-- The instants at which dates start are the keys of days. -/
theorem Daily.startsDate_iff (h : z.Daily)
    (hin : z.Inside 97200 0 t) : z.clock.StartsDate t ↔ bucketKey z.clock .day t = t := by
  have hleast := h.isLeast_bucketKey hin
  constructor
  · intro hstarts
    exact hleast.unique hstarts
  · intro heq
    rwa [heq] at hleast

/-- The next day is the next instant at which a date starts. -/
theorem Daily.meets_nextBucketKey (h : z.Daily)
    (hin : z.Inside 108000 145800 t) (hlo : bucketKey z.clock .day t < start)
    (hhi : start ≤ t + 1) :
    Meets z.clock.StartsDate stop start
      (nextBucketKey z.clock .day (bucketKey z.clock .day t)) := by
  have hin' : z.Inside 97200 0 t := hin.mono (by omega) (by omega)
  have hdate := h.dateAt_nextBucketKey hin
  constructor
  · intro _
    have hlater : ¬ nextBucketKey z.clock .day (bucketKey z.clock .day t) ≤ t := by
      rw [h.nextBucketKey_le_iff hin]
      omega
    have hleast := h.isLeast_nextBucketKey hin
    rw [← hdate] at hleast
    exact ⟨by omega, hleast⟩
  · intro x hx _ hstarts
    rw [h.nextBucketKey_le_iff hin]
    -- A later instant of the same date is not the first one of it.
    have hle : z.clock.dateAt t ≤ z.clock.dateAt x :=
      (h.bucketKey_le_iff hin').1 (by omega)
    by_contra hn
    have heq : z.clock.dateAt t = z.clock.dateAt x := by omega
    have hfirst := hstarts.2 ((h.dateAt_bucketKey hin').trans heq)
    omega

/-- **The grid of days lists the first instants of all local dates.** -/
theorem Daily.mem_bucketKeys_iff (h : z.Daily)
    (hstart : z.Inside 118800 156600 start) (hstop : z.Inside 118800 156600 stop) (k : Int) :
    k ∈ bucketKeys z.clock .day start stop ↔ start ≤ k ∧ k < stop ∧ z.clock.StartsDate k := by
  rw [bucketKeys_eq]
  refine mem_bucketKeysFrom_iff_of_meets ?_ ?_ k
  · intro x hx hxstop hxstarts
    have hin : z.Inside 108000 145800 x :=
      (h.inside_of_between hstart hstop (by omega) (by omega) hx (Int.le_of_lt hxstop)).mono
        (by omega) (by omega)
    have hself := (h.startsDate_iff (hin.mono (by omega) (by omega))).1 hxstarts
    have hmeets : Meets z.clock.StartsDate stop (x + 1)
        (nextBucketKey z.clock .day (bucketKey z.clock .day x)) :=
      h.meets_nextBucketKey hin (by omega) (Int.le_refl _)
    rwa [hself] at hmeets
  · have hin : z.Inside 108000 145800 start := hstart.mono (by omega) (by omega)
    have hin' : z.Inside 97200 0 start := hstart.mono (by omega) (by omega)
    unfold firstKey
    split
    · rename_i hlt
      exact h.meets_nextBucketKey hin hlt (by omega)
    · rename_i hle
      have hself : bucketKey z.clock .day start ≤ start :=
        (h.bucketKey_le_iff hin').2 (Int.le_refl _)
      have heq : bucketKey z.clock .day start = start := by omega
      rw [heq]
      exact ⟨fun _ => ⟨Int.le_refl _, (h.startsDate_iff hin').2 heq⟩, fun x hx _ _ => hx⟩

/-- **Days across changes of the clock.**  In a paced zone whose changes skip or repeat no midnight
but as their first local second, a day starts at the first instant of its local date, the next one
at the first instant of the date after, and a grid of days is the ascending list of the first
instants of local dates in its range.  From the beginning of the calendar this takes a distance of
27, 30 and 33 hours; from its end none for a day, 40 hours and a half for the day after, and 43
hours and a half for a grid. -/
theorem days_of_local_dates (h : z.Daily) :
    (∀ t, z.Inside 97200 0 t →
      IsLeast {u | z.clock.dateAt u = z.clock.dateAt t} (bucketKey z.clock .day t)) ∧
    (∀ t, z.Inside 108000 145800 t →
      IsLeast {u | z.clock.dateAt u = z.clock.dateAt t + 1}
        (nextBucketKey z.clock .day (bucketKey z.clock .day t))) ∧
    ∀ start stop, z.Inside 118800 156600 start → z.Inside 118800 156600 stop →
      (bucketKeys z.clock .day start stop).Pairwise (· < ·) ∧
        ∀ k, k ∈ bucketKeys z.clock .day start stop ↔
          start ≤ k ∧ k < stop ∧ IsLeast {u | z.clock.dateAt u = z.clock.dateAt k} k := by
  refine ⟨fun t => h.isLeast_bucketKey, fun t => h.isLeast_nextBucketKey, ?_⟩
  intro start stop hstart hstop
  exact ⟨pairwise_bucketKeys _ _ _ _, h.mem_bucketKeys_iff hstart hstop⟩

/-- When clocks went back in Havana, they did so to midnight.  The day has two midnights and
twenty-five hours, and starts at the first of the two. -/
theorem days_of_havana :
    havana.Daily ∧
      IsLeast {u | havana.clock.dateAt u = havana.clock.dateAt 1541310000} 1541304000 ∧
      IsLeast {u | havana.clock.dateAt u = havana.clock.dateAt 1541310000 + 1}
        (1541304000 + 90000) := by
  have hdaily : havana.Daily := ⟨⟨by decide +kernel, by decide +kernel⟩, by decide +kernel⟩
  have hin : havana.Inside 108000 145800 1541310000 :=
    ⟨by decide +kernel, by decide +kernel, by decide +kernel, by decide +kernel⟩
  have hkey : bucketKey havana.clock .day 1541310000 = 1541304000 := by decide +kernel
  have hnext : nextBucketKey havana.clock .day 1541304000 = 1541304000 + 90000 := by
    decide +kernel
  have hday := (days_of_local_dates hdaily).1 1541310000 (hin.mono (by omega) (by omega))
  have hafter := (days_of_local_dates hdaily).2.1 1541310000 hin
  rw [hkey] at hday hafter
  rw [hnext] at hafter
  exact ⟨hdaily, hday, hafter⟩

/-- **At the end of the calendar a step can leave it.**  The hop from the last full day of
Kolkata ends outside of the calendar, where universal time is used: it leads past the midnight after
that day, which is an instant of the calendar, and the grid lacks it. -/
theorem kolkata_last_day :
    kolkata.Daily ∧
      inCalendar 8210266770600 = true ∧ inCalendar 8210266876799 = true ∧
      bucketKey kolkata.clock .day 8210266770600 = 8210266770600 ∧
      ¬ IsLeast {u | kolkata.clock.dateAt u = kolkata.clock.dateAt 8210266770600 + 1}
        (nextBucketKey kolkata.clock .day 8210266770600) ∧
      kolkata.clock.dateAt 8210266856999 = kolkata.clock.dateAt 8210266770600 ∧
      kolkata.clock.dateAt 8210266857000 = kolkata.clock.dateAt 8210266770600 + 1 ∧
      bucketKeys kolkata.clock .day 8210266770600 8210266876799 = [8210266770600] := by
  have hdate : kolkata.clock.dateAt 8210266857000 = kolkata.clock.dateAt 8210266770600 + 1 := by
    decide +kernel
  have hnext : nextBucketKey kolkata.clock .day 8210266770600 = 8210266876800 := by decide +kernel
  refine ⟨⟨⟨by decide +kernel, by decide +kernel⟩, by decide +kernel⟩, by decide, by decide,
    by decide +kernel, ?_, by decide +kernel, hdate, by decide +kernel⟩
  intro hleast
  have hle := hleast.2 hdate
  rw [hnext] at hle
  omega

end Zone
end MetricQuery
