/-
  MetricQuery.Proofs.Time.Paced
  ─────────────────────────────
  **ZONES WITH SOME DAYS BETWEEN THEIR CHANGES.**

  If clocks are changed by three hours at most and no two changes are closer
  than three days, local time keeps pace with universal time: over any stretch
  it gains or loses one shift and a twenty-fourth of the stretch at most.  So a
  local time is shown near one instant only, and around each instant a zone has
  the buckets of a clock that knows of one change, however far local time is
  ahead of universal time.

    • `Zone.Paced`             — the condition on a zone,
    • `Paced.wallTime_bounds`  — local time keeps pace,
    • `Paced.exists_tracks`    — around every instant the table knows of one change,
    • `Paced.bucketKey_eq`     — and the buckets are those of that change,
    • `Paced.exists_change`    — both together, around any instant.
-/
import MetricQuery.Proofs.Time.Fit
import MetricQuery.Proofs.Time.Table

namespace MetricQuery

/-- The local time that a clock shows at an instant. -/
def Clock.localTime (clock : Clock) (t : Int) : Int :=
  t + clock.offsetAt t

namespace Zone

/-! ## §1. Local time keeps pace. -/

/-- How far apart the changes of a paced zone are: three days. -/
def pacedSpan : Int := 259200

/-- A zone whose clocks are changed by three hours at most, and no sooner than after three days. -/
structure Paced (z : Zone) : Prop where
  small : ∀ c ∈ z.changes, c.Small
  apart : z.transitions.Pairwise fun a b => a.instant + pacedSpan ≤ b.instant

/-- The local time that the table shows at an instant, within the calendar or not. -/
def wallTime (z : Zone) (t : Int) : Int :=
  t + offsetFrom z.initial z.transitions t

/-- Three days after a change the next one is paid for: the offset moves by a twenty-fourth of the
time since then at most. -/
theorem offsetFrom_bounds_since {since o t : Int} {transitions : List Transition}
    (hsmall : ∀ c ∈ changesFrom o transitions, c.Small)
    (hapart : transitions.Pairwise fun a b => a.instant + pacedSpan ≤ b.instant)
    (hsince : ∀ tr ∈ transitions, since + pacedSpan ≤ tr.instant) (ht : since ≤ t) :
    since - t ≤ 24 * (offsetFrom o transitions t - o) ∧
      24 * (offsetFrom o transitions t - o) ≤ t - since := by
  induction transitions generalizing since o with
  | nil =>
      unfold offsetFrom
      omega
  | cons tr rest ih =>
      obtain ⟨hfirst, hrest⟩ := List.pairwise_cons.1 hapart
      have hlater := hsince tr List.mem_cons_self
      have hspan : pacedSpan = 259200 := rfl
      unfold changesFrom at hsmall
      obtain ⟨hlow, hhigh⟩ := hsmall _ List.mem_cons_self
      simp only [Change.shift] at hlow hhigh
      unfold offsetFrom
      split
      · omega
      · -- The change at the head costs three hours, which the three days before it have paid for.
        have hbounds := ih (fun c hc => hsmall c (List.mem_cons_of_mem _ hc)) hrest hfirst
          (by omega : tr.instant ≤ t)
        omega

/-- Over any stretch the offset of a paced table moves by one shift and a twenty-fourth of the
stretch at most. -/
theorem offsetFrom_bounds {o t u : Int} {transitions : List Transition}
    (hsmall : ∀ c ∈ changesFrom o transitions, c.Small)
    (hapart : transitions.Pairwise fun a b => a.instant + pacedSpan ≤ b.instant) (htu : t ≤ u) :
    t - u - pacedSpan ≤ 24 * (offsetFrom o transitions u - offsetFrom o transitions t) ∧
      24 * (offsetFrom o transitions u - offsetFrom o transitions t) ≤ u - t + pacedSpan := by
  have hspan : pacedSpan = 259200 := rfl
  induction transitions generalizing o with
  | nil =>
      unfold offsetFrom
      omega
  | cons tr rest ih =>
      obtain ⟨hfirst, hrest⟩ := List.pairwise_cons.1 hapart
      unfold changesFrom at hsmall
      obtain ⟨hlow, hhigh⟩ := hsmall _ List.mem_cons_self
      simp only [Change.shift] at hlow hhigh
      have hrestSmall := fun c hc => hsmall c (List.mem_cons_of_mem _ hc)
      by_cases ht : t < tr.instant
      · rw [show offsetFrom o (tr :: rest) t = o from if_pos ht]
        by_cases hu : u < tr.instant
        · rw [show offsetFrom o (tr :: rest) u = o from if_pos hu]
          omega
        · have hbounds := offsetFrom_bounds_since hrestSmall hrest hfirst
            (by omega : tr.instant ≤ u)
          rw [show offsetFrom o (tr :: rest) u = offsetFrom tr.offset rest u from if_neg hu]
          omega
      · rw [show offsetFrom o (tr :: rest) t = offsetFrom tr.offset rest t from if_neg ht,
          show offsetFrom o (tr :: rest) u = offsetFrom tr.offset rest u from if_neg (by omega)]
        exact ih hrestSmall hrest

variable {z : Zone} {c : Change} {r : Resolution} {lo hi : Int}

/-- **Local time keeps pace with universal time.** -/
theorem Paced.wallTime_bounds (h : z.Paced) {t u : Int} (htu : t ≤ u) :
    23 * (u - t) - pacedSpan ≤ 24 * (z.wallTime u - z.wallTime t) ∧
      24 * (z.wallTime u - z.wallTime t) ≤ 25 * (u - t) + pacedSpan := by
  have hbounds := offsetFrom_bounds h.small h.apart htu
  unfold wallTime
  omega

/-! ## §2. One change at a time. -/

/-- Between `lo` and `hi` the table of the zone knows of this change only. -/
def Tracks (z : Zone) (c : Change) (lo hi : Int) : Prop :=
  ∀ t, lo ≤ t → t < hi → offsetFrom z.initial z.transitions t = c.clock.offsetAt t

/-- For three days from any instant on, the table knows of one change, be it a change of nothing. -/
theorem Paced.exists_tracks (h : z.Paced) (lo : Int) :
    ∃ c : Change, ((c ∈ z.changes ∧ lo < c.instant ∧ c.instant < lo + pacedSpan) ∨ c.shift = 0) ∧
      c.Small ∧ z.Tracks c lo (lo + pacedSpan) := by
  have hpos : 0 < pacedSpan := by decide
  obtain ⟨c, hc, htracks⟩ := exists_changeFrom (o := z.initial) hpos h.apart lo
  refine ⟨c, ?_, ?_, htracks⟩
  · rcases hc with hc | rfl
    · exact Or.inl hc
    · exact Or.inr (Int.sub_self _)
  · rcases hc with ⟨hc, -⟩ | rfl
    · exact h.small c hc
    · simp only [Change.Small, Change.shift]
      omega

/-- For three days before and after a change, the table knows of no other. -/
theorem Paced.tracks_of_mem (h : z.Paced) (hc : c ∈ z.changes) :
    z.Tracks c (c.instant - pacedSpan) (c.instant + pacedSpan) :=
  fun _ hlo hhi => offsetFrom_of_mem_changesFrom h.apart hc hlo hhi

/-- **Local times of a day and three hours up to an instant** are shown as by the change alone. -/
theorem Paced.mem_candidates_iff (h : z.Paced) (hsmall : c.Small) (htracks : z.Tracks c lo hi)
    {t : Int} (hlo : lo + 118800 ≤ t) (hhi : t + 21600 ≤ hi) {x p : Int}
    (hx : z.wallTime t - 97200 < x) (hxt : x ≤ z.wallTime t) :
    p ∈ z.candidates x ↔ c.Shows x p := by
  obtain ⟨hback, hforth⟩ := hsmall
  simp only [Change.shift] at hback hforth
  have hspan : pacedSpan = 259200 := rfl
  have hoffset := htracks t (by omega) (by omega)
  have heither := Change.offsetAt_clock_cases c t
  have hwall : z.wallTime t = t + offsetFrom z.initial z.transitions t := rfl
  rw [Zone.mem_candidates_iff]
  constructor
  · intro hp
    -- An instant that shows the local time is not far away, since local time keeps pace.
    have hshown : z.wallTime (x - p) = x := by
      unfold wallTime
      omega
    have hge : lo ≤ x - p := by
      by_contra hlt
      have hbounds := h.wallTime_bounds (t := x - p) (u := t) (by omega)
      omega
    have hlt : x - p < hi := by
      by_contra hge
      have hbounds := h.wallTime_bounds (t := t) (u := x - p) (by omega)
      omega
    rw [htracks _ hge hlt] at hp
    by_cases hinstant : x - p < c.instant
    · rw [Change.offsetAt_clock_of_lt hinstant] at hp
      exact Or.inl ⟨by omega, hp.symm⟩
    · rw [Change.offsetAt_clock_of_le (by omega)] at hp
      exact Or.inr ⟨by omega, hp.symm⟩
  · intro hshows
    rcases hshows with ⟨hlt, heq⟩ | ⟨hle, heq⟩
    · rw [heq, htracks _ (by omega) (by omega)]
      exact Change.offsetAt_clock_of_lt hlt
    · rw [heq, htracks _ (by omega) (by omega)]
      exact Change.offsetAt_clock_of_le hle

/-! ## §3. Inside of the calendar. -/

/-- The instant and the local time that it shows lie at least `early` seconds after the beginning of
the calendar and at least `late` seconds before its end. -/
structure Inside (z : Zone) (early late t : Int) : Prop where
  first : calendarFirst + early ≤ t
  last : t + late ≤ calendarLast
  localFirst : calendarFirst + early ≤ z.clock.localTime t
  localLast : z.clock.localTime t + late ≤ calendarLast

variable {early late t : Int}

theorem Inside.inCalendar (h : z.Inside early late t) (hearly : 0 ≤ early) (hlate : 0 ≤ late) :
    inCalendar t = true := by
  obtain ⟨hfirst, hlast, -, -⟩ := h
  rw [inCalendar_iff]
  omega

theorem Inside.mono (h : z.Inside early late t) {early' late' : Int} (hearly : early' ≤ early)
    (hlate : late' ≤ late) : z.Inside early' late' t := by
  obtain ⟨hfirst, hlast, hlocalFirst, hlocalLast⟩ := h
  exact ⟨by omega, by omega, by omega, by omega⟩

/-- Within the calendar the clock of a zone shows the local time of its table. -/
theorem localTime_clock (h : inCalendar t = true) : z.clock.localTime t = z.wallTime t := by
  show t + z.offsetAt t = _
  unfold offsetAt wallTime
  rw [if_pos h]

/-- Between two instants that are inside by three hours and more, all are inside by three hours
less. -/
theorem Paced.inside_of_between (h : z.Paced) (hlo : z.Inside early late lo)
    (hhi : z.Inside early late hi) (hearly : 10800 ≤ early) (hlate : 10800 ≤ late) (hlot : lo ≤ t)
    (hthi : t ≤ hi) : z.Inside (early - 10800) (late - 10800) t := by
  have hspan : pacedSpan = 259200 := rfl
  have hlocalLo := hlo.localFirst
  have hlocalHi := hhi.localLast
  rw [localTime_clock (hlo.inCalendar (by omega) (by omega))] at hlocalLo
  rw [localTime_clock (hhi.inCalendar (by omega) (by omega))] at hlocalHi
  have hfirst := hlo.first
  have hlast := hhi.last
  have hcalendar : MetricQuery.inCalendar t = true := by
    rw [inCalendar_iff]
    omega
  have hsince := h.wallTime_bounds hlot
  have huntil := h.wallTime_bounds hthi
  refine ⟨by omega, by omega, ?_, ?_⟩
  · rw [localTime_clock hcalendar]
    omega
  · rw [localTime_clock hcalendar]
    omega

/-- Near an instant that is well inside, all are inside, by the stretch between and a twenty-fourth
of it and three hours less. -/
theorem Paced.inside_of_near (h : z.Paced) (ht : z.Inside early late t) {u : Int} (back forth : Int)
    (hlo : t - back ≤ u) (hhi : u ≤ t + forth) {early' late' : Int} (hearly : 0 ≤ early')
    (hlate : 0 ≤ late') (hback : 0 ≤ back ∧ 25 * back + pacedSpan ≤ 24 * (early - early'))
    (hforth : 0 ≤ forth ∧ 25 * forth + pacedSpan ≤ 24 * (late - late')) :
    z.Inside early' late' u := by
  have hspan : pacedSpan = 259200 := rfl
  obtain ⟨hback, hfirst'⟩ := hback
  obtain ⟨hforth, hlast'⟩ := hforth
  have hcalendar := ht.inCalendar (by omega) (by omega)
  obtain ⟨hfirst, hlast, hlocalFirst, hlocalLast⟩ := ht
  rw [localTime_clock hcalendar] at hlocalFirst hlocalLast
  have hcalendar' : MetricQuery.inCalendar u = true := by
    rw [inCalendar_iff]
    omega
  have hlocal : calendarFirst + early' ≤ z.wallTime u ∧ z.wallTime u + late' ≤ calendarLast := by
    rcases Int.le_total u t with hle | hle
    · have hbounds := h.wallTime_bounds hle
      omega
    · have hbounds := h.wallTime_bounds hle
      omega
  rw [← localTime_clock hcalendar'] at hlocal
  exact ⟨by omega, by omega, hlocal.1, hlocal.2⟩

/-- **The buckets of a paced zone are those of one change.** -/
theorem Paced.bucketKey_eq (h : z.Paced) (hsmall : c.Small) (htracks : z.Tracks c lo hi)
    (hlo : lo + 118800 ≤ t) (hhi : t + 21600 ≤ hi) (hin : z.Inside 97200 0 t) :
    bucketKey z.clock r t = bucketKey c.clock r t := by
  have hpos := r.size_pos
  have hle := r.size_le
  have hcalendar := hin.inCalendar (by omega) (Int.le_refl 0)
  have hoffset : z.clock.offsetAt t = c.clock.offsetAt t := by
    rw [← htracks t (by omega) (by omega)]
    exact if_pos hcalendar
  have hwall : z.wallTime t = t + c.clock.offsetAt t := by
    unfold wallTime
    rw [htracks t (by omega) (by omega)]
  have hlocalFirst := hin.localFirst
  have hlocalLast := hin.localLast
  rw [localTime_clock hcalendar] at hlocalFirst hlocalLast
  have hnonneg := Int.emod_nonneg (t + c.clock.offsetAt t) (Int.ne_of_gt hpos)
  have hlt := Int.emod_lt_of_pos (t + c.clock.offsetAt t) hpos
  -- The start of the bucket and the three hours before it are local times within the calendar.
  have hback : ∀ x, z.wallTime t - 97200 < x → x ≤ z.wallTime t →
      MetricQuery.inCalendar x = true := by
    intro x hx hxt
    rw [inCalendar_iff]
    omega
  have hlocal : ∀ preferred, z.clock.localOffset
      (t + c.clock.offsetAt t - (t + c.clock.offsetAt t) % r.size) preferred =
        c.clock.localOffset (t + c.clock.offsetAt t - (t + c.clock.offsetAt t) % r.size)
          preferred := by
    intro preferred
    refine localOffset_of_shows hsmall (hback _ (by omega) (by omega))
      (hback _ (by omega) (by omega)) ?_ preferred
    intro x p hx hxs
    exact h.mem_candidates_iff hsmall htracks hlo hhi (by omega) (by omega)
  rw [bucketKey_eq_sub hoffset, bucketKey_eq_sub rfl, hlocal]

/-- **Around every instant a paced zone has the local times and the buckets of one change,** be it a
change of nothing. -/
theorem Paced.exists_change (h : z.Paced) (t : Int) :
    ∃ c : Change, ((c ∈ z.changes ∧ t - 216000 < c.instant) ∨ c.shift = 0) ∧ c.Small ∧
      (∀ u, t - 216000 ≤ u → u < t + 43200 → inCalendar u = true →
        z.clock.localTime u = c.clock.localTime u) ∧
      ∀ r u, t - 97200 ≤ u → u ≤ t + 1 → z.Inside 97200 0 u →
        bucketKey z.clock r u = bucketKey c.clock r u := by
  have hspan : pacedSpan = 259200 := rfl
  obtain ⟨c, hc, hsmall, htracks⟩ := h.exists_tracks (t - 216000)
  refine ⟨c, ?_, hsmall, ?_, ?_⟩
  · rcases hc with ⟨hmem, hlt, -⟩ | hzero
    · exact Or.inl ⟨hmem, hlt⟩
    · exact Or.inr hzero
  · intro u hlo hhi hcalendar
    rw [localTime_clock hcalendar]
    exact congrArg (u + ·) (htracks u hlo (by omega))
  · intro r u hlo hhi hin
    exact h.bucketKey_eq hsmall htracks (by omega) (by omega) hin

end Zone
end MetricQuery
