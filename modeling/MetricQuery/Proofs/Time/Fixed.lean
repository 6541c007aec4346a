/-
  MetricQuery.Proofs.Time.Fixed
  ─────────────────────────────
  **ZONES THAT NEVER CHANGE.**

  A zone with one offset for ever cuts time into buckets of equal length.  Only
  outside of the calendar it does not: there universal time is used, and where a
  day starts outside of the calendar, its key is a day of universal time.  So
  the walk along a grid meets the start of a bucket unless the step that leads
  to it ends outside of the calendar.

    • `Zone.bucketKey_fixed`    — the start of a bucket, in closed form,
    • `bucketKey_fixed_lt_iff`  — a bucket lies on one side of a start,
    • `Zone.Regular`            — an instant from which the walk goes on by plain steps,
    • `Zone.Parts`              — a start with room for the step to it,
    • `bucketKeys_fixed_append` — a grid that is cut at such a start is two grids,
    • `bucketKey_of_mem_bucketKeys_fixed` — the keys of a grid are their own keys,
    • `mem_bucketKeys_fixed_iff` — the instants whose buckets are on a grid.
-/
import MetricQuery.Proofs.Time.Aligned

namespace MetricQuery.Zone

variable {name : String} {offset : Int} {r : Resolution}

/-! ## §1. Buckets. -/

/-- The local time at which the bucket of an instant starts. -/
def localStart (offset : Int) (r : Resolution) (t : Int) : Int :=
  t + offset - (t + offset) % r.size

theorem localStart_bounds (offset : Int) (r : Resolution) (t : Int) :
    localStart offset r t ≤ t + offset ∧ t + offset < localStart offset r t + r.size := by
  have hnonneg := Int.emod_nonneg (t + offset) (Int.ne_of_gt r.size_pos)
  have hlt := Int.emod_lt_of_pos (t + offset) r.size_pos
  unfold localStart
  omega

theorem localStart_emod (offset : Int) (r : Resolution) (t : Int) :
    localStart offset r t % r.size = 0 := by
  have h := Change.emod_size_sub r t offset
  rwa [show t - (t + offset) % r.size + offset = localStart offset r t by
    unfold localStart
    omega] at h

theorem localStart_eq {t x : Int} (hx : x % r.size = 0) (hle : x ≤ t + offset)
    (hlt : t + offset < x + r.size) : localStart offset r t = x := by
  have hmod : (t + offset) % r.size = t + offset - x := by
    rw [show t + offset = t + offset - x + x by omega, Int.add_emod, hx, Int.add_zero,
      Int.emod_emod, Int.add_sub_cancel]
    exact Int.emod_eq_of_lt (by omega) (by omega)
  unfold localStart
  omega

/-- A fixed zone shows a local time by its one offset, as long as the time has a date. -/
theorem localOffset_fixed (name : String) (offset localTime : Int) (preferred : Option Int) :
    (fixed name offset).localOffset localTime preferred =
      if inCalendar localTime = true then offset else preferred.getD 0 := by
  have hcandidates : (fixed name offset).candidates localTime = [offset] := rfl
  unfold localOffset
  split
  · rw [hcandidates]
    cases preferred with
    | none => rfl
    | some p =>
        show (if p ∈ [offset] then p else offset) = offset
        split
        · rename_i hp
          exact List.mem_singleton.1 hp
        · rfl
  · rename_i hout
    rw [show (fixed name offset).offsetAt localTime = 0 from if_neg hout]

/-- The start of the bucket of an instant of the calendar.  A day that starts outside of the
calendar starts as if by universal time. -/
theorem bucketKey_fixed {t : Int} (ht : inCalendar t = true) :
    bucketKey (fixed name offset).clock r t = localStart offset r t -
      if r = .day ∧ inCalendar (localStart offset r t) = false then 0 else offset := by
  have hoffset : (fixed name offset).clock.offsetAt t = offset := if_pos ht
  rw [bucketKey_eq_sub hoffset]
  show localStart offset r t - (fixed name offset).localOffset (localStart offset r t) _ = _
  rw [localOffset_fixed]
  by_cases hday : r = .day
  · cases inCalendar (localStart offset r t) <;> simp [hday]
  · simp [hday]

/-- A bucket that starts at a local time with a date, or is no day, starts by the offset. -/
theorem bucketKey_fixed_of_localStart {t x : Int} (ht : inCalendar t = true)
    (hlocal : localStart offset r t = x) (hday : r = .day → inCalendar x = true) :
    bucketKey (fixed name offset).clock r t = x - offset := by
  subst hlocal
  rw [bucketKey_fixed ht, if_neg]
  rintro ⟨heq, hout⟩
  rw [hday heq] at hout
  cases hout

/-- An instant that starts its own bucket does so by the offset of the zone. -/
theorem starts_of_bucketKey_fixed {b : Int} (hb : inCalendar b = true)
    (hself : bucketKey (fixed name offset).clock r b = b) :
    (b + offset) % r.size = 0 ∧ (r = .day → inCalendar (b + offset) = true) := by
  rw [bucketKey_fixed hb] at hself
  by_cases hout : r = .day ∧ inCalendar (localStart offset r b) = false
  · -- A day that starts outside of the calendar is no day of the instant.
    rw [if_pos hout, Int.sub_zero] at hself
    rw [hself, hb] at hout
    cases hout.2
  · rw [if_neg hout] at hself
    have hlocal : localStart offset r b = b + offset := by omega
    refine ⟨hlocal ▸ localStart_emod offset r b, ?_⟩
    intro hday
    rw [hlocal] at hout
    exact Bool.eq_true_of_not_eq_false fun h => hout ⟨hday, h⟩

/-- **A bucket lies on one side of a start:** no bucket starts before it and goes on after. -/
theorem bucketKey_fixed_lt_iff {b : Int} (hb : inCalendar b = true)
    (hself : bucketKey (fixed name offset).clock r b = b) (t : Int) :
    bucketKey (fixed name offset).clock r t < b ↔ t < b := by
  obtain ⟨hmod, hday⟩ := starts_of_bucketKey_fixed hb hself
  have hsize := r.size_pos
  have hdates := inCalendar_iff.1 hb
  by_cases ht : inCalendar t = true
  · obtain ⟨hle, hlt⟩ := localStart_bounds offset r t
    have hstart := localStart_emod offset r t
    -- By local time the bucket of `t` starts before `b` if and only if `t` is before `b`.
    have hside : localStart offset r t < b + offset ↔ t < b := by
      constructor
      · intro h
        have hstep := Change.add_size_le (r := r) (o := 0) (by simpa using hstart)
          (by simpa using hmod) h
        omega
      · intro h
        omega
    rw [bucketKey_fixed ht]
    split
    · rename_i hout
      -- The day starts at the beginning of the calendar or at its end, and so on the same side.
      have hnodate : ¬ inCalendar (localStart offset r t) = true := by
        rw [hout.2]
        exact Bool.false_ne_true
      have hbday := inCalendar_iff.1 (hday hout.1)
      rw [inCalendar_iff] at hnodate
      omega
    · omega
  · have hkey := not_inCalendar_sub_emod r ht
    have hnonneg := Int.emod_nonneg t (Int.ne_of_gt hsize)
    have hlt := Int.emod_lt_of_pos t hsize
    have hle := r.size_le
    rw [bucketKey_of_not_inCalendar ht]
    rw [inCalendar_iff] at ht hkey
    simp only [calendarFirst, calendarLast] at *
    omega

/-! ## §2. Steps. -/

/-- A bucket starts at the instant, and neither the next one nor, if it is a day, the local time at
which that starts is before the calendar. -/
structure Regular (offset : Int) (r : Resolution) (k : Int) : Prop where
  starts : (k + offset) % r.size = 0
  room : calendarFirst ≤ k + r.size
  day : r = .day → calendarFirst ≤ k + r.size + offset

theorem Regular.step {k : Int} (h : Regular offset r k) : Regular offset r (k + r.size) := by
  have hsize := r.size_pos
  have hroom := h.room
  refine ⟨?_, by omega, ?_⟩
  · rw [show k + r.size + offset = k + offset + r.size by omega, Int.add_emod_right]
    exact h.starts
  · intro hday
    have hfirst := h.day hday
    omega

/-- The first local midnight of the calendar, in a zone that is behind universal time. -/
theorem regular_midnight (hneg : offset < 0) : Regular offset .day (calendarFirst - offset) := by
  have hsize := Resolution.day.size_pos
  refine ⟨?_, by omega, fun _ => by omega⟩
  rw [Int.sub_add_cancel]
  decide

/-- **A plain step,** as long as it ends in the calendar. -/
theorem Regular.nextBucketKey_eq {k : Int} (h : Regular offset r k)
    (hlast : k + r.size + r.size / 2 ≤ calendarLast)
    (hday : r = .day → k + r.size + offset ≤ calendarLast) :
    nextBucketKey (fixed name offset).clock r k = k + r.size := by
  have hsize := r.size_pos
  have hroom := h.room
  have hin : inCalendar (k + r.size + r.size / 2) = true := inCalendar_iff.2 ⟨by omega, hlast⟩
  have hlocal : localStart offset r (k + r.size + r.size / 2) = k + r.size + offset :=
    localStart_eq h.step.starts (by omega) (by omega)
  have hnext : bucketKey (fixed name offset).clock r (k + r.size + r.size / 2) =
      k + r.size + offset - offset :=
    bucketKey_fixed_of_localStart hin hlocal fun heq => inCalendar_iff.2 ⟨h.day heq, hday heq⟩
  unfold nextBucketKey
  rw [hnext, Int.add_sub_cancel]
  exact if_neg (by omega)

/-- Where a walk by days has come to: a regular instant, or one of the two from which it enters the
calendar in a zone that is behind universal time. -/
def OnWay (offset : Int) (r : Resolution) (k : Int) : Prop :=
  Regular offset r k ∨ r = .day ∧ offset < 0 ∧
    (k = calendarFirst - r.size ∨ k = calendarFirst ∧ offset < -(r.size / 2))

/-- A day by local time that starts with the calendar. -/
theorem bucketKey_fixed_first {t : Int} (ht : inCalendar t = true)
    (hle : calendarFirst ≤ t + offset) (hlt : t + offset < calendarFirst + Resolution.day.size) :
    bucketKey (fixed name offset).clock .day t = calendarFirst - offset :=
  bucketKey_fixed_of_localStart ht (localStart_eq (by decide) hle hlt) fun _ => by decide

/-- A day by local time that starts before the calendar has its key before the calendar. -/
theorem bucketKey_fixed_early {t : Int} (ht : inCalendar t = true)
    (hle : calendarFirst - Resolution.day.size ≤ t + offset) (hlt : t + offset < calendarFirst) :
    bucketKey (fixed name offset).clock .day t = calendarFirst - Resolution.day.size := by
  have hlocal : localStart offset .day t = calendarFirst - Resolution.day.size :=
    localStart_eq (by decide) hle (by omega)
  rw [bucketKey_fixed ht, hlocal, if_pos ⟨rfl, by decide⟩, Int.sub_zero]

/-- The walk enters the calendar from the day before it, possibly with a stop at its beginning, and
comes to the first local midnight. -/
theorem nextBucketKey_entering (name : String) (hoffset : -secondsPerDay < offset)
    (hneg : offset < 0) :
    nextBucketKey (fixed name offset).clock .day (calendarFirst - Resolution.day.size) =
        (if offset < -(Resolution.day.size / 2) then calendarFirst else calendarFirst - offset) ∧
      (offset < -(Resolution.day.size / 2) →
        nextBucketKey (fixed name offset).clock .day calendarFirst = calendarFirst - offset) := by
  have hsize : Resolution.day.size = 86400 := rfl
  simp only [secondsPerDay, hsize] at hoffset ⊢
  constructor
  · -- The step ends at noon of the first day of the calendar, by universal time.
    have hin : inCalendar (calendarFirst - 86400 + 86400 + 86400 / 2) = true := by decide
    unfold nextBucketKey
    rw [hsize]
    split
    · rw [bucketKey_fixed_early hin (by omega) (by omega)]
      simp only [hsize, Int.le_refl, if_true]
      omega
    · rw [bucketKey_fixed_first hin (by omega) (by omega)]
      exact if_neg (by omega)
  · intro hfar
    have hin : inCalendar (calendarFirst + 86400 + 86400 / 2) = true := by decide
    unfold nextBucketKey
    rw [hsize, bucketKey_fixed_first hin (by omega) (by omega)]
    exact if_neg (by omega)

/-- A bucket of universal time starts at the instant, after the calendar. -/
structure Late (r : Resolution) (k : Int) : Prop where
  starts : k % r.size = 0
  after : calendarLast < k

/-- **The start of the bucket of an instant of the calendar** is regular, unless the bucket is a day
that starts outside of the calendar. -/
theorem bucketKey_fixed_cases (name : String) (r : Resolution) {t : Int}
    (hoffset : -secondsPerDay < offset) (ht : inCalendar t = true) :
    (Regular offset r (bucketKey (fixed name offset).clock r t) ∧
      bucketKey (fixed name offset).clock r t ≤ t ∧
      (r = .day → inCalendar (bucketKey (fixed name offset).clock r t + offset) = true)) ∨
    (r = .day ∧ offset < 0 ∧
      bucketKey (fixed name offset).clock r t = calendarFirst - r.size) ∨
    Late r (bucketKey (fixed name offset).clock r t) := by
  obtain ⟨hle, hlt⟩ := localStart_bounds offset r t
  have hstart := localStart_emod offset r t
  have hdates := inCalendar_iff.1 ht
  rw [bucketKey_fixed ht]
  by_cases hout : r = .day ∧ inCalendar (localStart offset r t) = false
  · right
    rw [if_pos hout, Int.sub_zero]
    obtain ⟨rfl, hnodate⟩ := hout
    rw [← Bool.not_eq_true, inCalendar_iff] at hnodate
    by_cases hearly : localStart offset .day t < calendarFirst
    · have hbefore : offset < 0 ∧
          localStart offset .day t = calendarFirst - Resolution.day.size := by
        simp only [Resolution.size, Resolution.seconds, secondsPerDay, calendarFirst] at *
        omega
      exact Or.inl ⟨rfl, hbefore⟩
    · exact Or.inr ⟨hstart, by omega⟩
  · left
    rw [if_neg hout, Int.sub_add_cancel]
    have hday : r = .day → inCalendar (localStart offset r t) = true :=
      fun heq => Bool.eq_true_of_not_eq_false fun h => hout ⟨heq, h⟩
    refine ⟨⟨?_, by omega, ?_⟩, by omega, hday⟩
    · rwa [Int.sub_add_cancel]
    · intro heq
      have hfirst := (inCalendar_iff.1 (hday heq)).1
      have hsize := r.size_pos
      omega

/-! ## §3. Cutting a grid. -/

/-- A bucket starts at the instant, and half a bucket later there still are dates.  Where buckets
are those of universal time, with which the calendar ends, the latter goes without saying. -/
def Parts (z : Zone) (r : Resolution) (b : Int) : Prop :=
  bucketKey z.clock r b = b ∧ (z.initial % r.size = 0 ∨ b + r.size / 2 ≤ calendarLast)

instance (z : Zone) (r : Resolution) (b : Int) : Decidable (z.Parts r b) :=
  inferInstanceAs (Decidable (_ ∧ _))

theorem Parts.room {b : Int} (h : Parts (fixed name offset) r b) (hb : inCalendar b = true) :
    b + r.size / 2 ≤ calendarLast := by
  obtain ⟨hself, hwhole | hroom⟩ := h
  · obtain ⟨hmod, -⟩ := starts_of_bucketKey_fixed hb hself
    have hstart : (b + 0) % r.size = (b + offset) % r.size := by
      refine emod_size_of_dvd ?_ b
      rw [Int.zero_sub, Int.dvd_neg]
      exact Int.dvd_of_emod_eq_zero hwhole
    have hend : (calendarLast + 1 + 0) % r.size = 0 := by
      cases r <;> decide
    have hdates := inCalendar_iff.1 hb
    have hstep := Change.add_size_le (hstart.trans hmod) hend (by omega)
    have hsize := r.size_pos
    omega
  · exact hroom

/-- **No step of a walk leads over a start** that has room for the step to it. -/
theorem OnWay.step {b k : Int} (hoffset : -secondsPerDay < offset) (hb : inCalendar b = true)
    (hparts : Parts (fixed name offset) r b) (hk : OnWay offset r k) (hlt : k < b) :
    OnWay offset r (nextBucketKey (fixed name offset).clock r k) ∧
      nextBucketKey (fixed name offset).clock r k ≤ b := by
  have hroom := hparts.room hb
  obtain ⟨hmod, hday⟩ := starts_of_bucketKey_fixed hb hparts.1
  rcases hk with hregular | ⟨rfl, hneg, hentering⟩
  · have hstep := Change.add_size_le hregular.starts hmod hlt
    have hnext : nextBucketKey (fixed name offset).clock r k = k + r.size := by
      refine hregular.nextBucketKey_eq (by omega) fun heq => ?_
      have hlast := (inCalendar_iff.1 (hday heq)).2
      omega
    rw [hnext]
    exact ⟨Or.inl hregular.step, hstep⟩
  · have hfirst := (inCalendar_iff.1 (hday rfl)).1
    obtain ⟨hbefore, hat⟩ := nextBucketKey_entering name hoffset hneg
    rcases hentering with rfl | ⟨rfl, hfar⟩
    · rw [hbefore]
      split
      · rename_i hfar
        exact ⟨Or.inr ⟨rfl, hneg, Or.inr ⟨rfl, hfar⟩⟩, by omega⟩
      · exact ⟨Or.inl (regular_midnight hneg), by omega⟩
    · rw [hat hfar]
      exact ⟨Or.inl (regular_midnight hneg), by omega⟩

/-- **A grid that is cut where a bucket starts is two grids.** -/
theorem bucketKeys_fixed_append {a b c : Int} (hoffset : -secondsPerDay < offset)
    (ha : calendarFirst ≤ a) (hab : a < b) (hbc : b ≤ c) (hb : b ≤ calendarLast)
    (hparts : Parts (fixed name offset) r b) :
    bucketKeys (fixed name offset).clock r a c =
      bucketKeys (fixed name offset).clock r a b ++
        bucketKeys (fixed name offset).clock r b c := by
  have hain : inCalendar a = true := inCalendar_iff.2 ⟨ha, by omega⟩
  have hbin : inCalendar b = true := inCalendar_iff.2 ⟨by omega, hb⟩
  have hside := (bucketKey_fixed_lt_iff hbin hparts.1 a).2 hab
  -- The walk sets out on its way, and a grid that starts at `b` sets out from there.
  have hkey : OnWay offset r (bucketKey (fixed name offset).clock r a) := by
    rcases bucketKey_fixed_cases name r hoffset hain with
      ⟨hregular, -⟩ | ⟨hr, hneg, hearly⟩ | hlate
    · exact Or.inl hregular
    · exact Or.inr ⟨hr, hneg, Or.inl hearly⟩
    · have hafter := hlate.after
      omega
  have hop : ∀ k, OnWay offset r k → k < b → _ := fun k hk hlt => hk.step hoffset hbin hparts hlt
  rw [bucketKeys_eq, bucketKeys_eq, bucketKeys_eq, firstKey_of_self hparts.1]
  unfold firstKey
  split
  · obtain ⟨hnext, hle⟩ := hop _ hkey hside
    exact bucketKeysFrom_append hbc hop hnext hle
  · exact bucketKeysFrom_append hbc hop hkey (Int.le_of_lt hside)

/-! ## §4. Keys of their own. -/

theorem Late.bucketKey_eq {k : Int} (h : Late r k) :
    bucketKey (fixed name offset).clock r k = k := by
  have hout : ¬ inCalendar k = true := by
    have hafter := h.after
    rw [inCalendar_iff]
    omega
  rw [bucketKey_of_not_inCalendar hout, h.starts, Int.sub_zero]

theorem Late.add_size {k : Int} (h : Late r k) : Late r (k + r.size) := by
  have hsize := r.size_pos
  have hafter := h.after
  refine ⟨?_, by omega⟩
  rw [Int.add_emod_right]
  exact h.starts

/-- The buckets of instants after the calendar start after it. -/
theorem late_bucketKey {t : Int} (ht : calendarLast < t) :
    Late r (bucketKey (fixed name offset).clock r t) := by
  have hout : ¬ inCalendar t = true := by
    rw [inCalendar_iff]
    omega
  have hkey := not_inCalendar_sub_emod r hout
  have hlt := Int.emod_lt_of_pos t r.size_pos
  have hle := r.size_le
  rw [bucketKey_of_not_inCalendar hout]
  refine ⟨by simp, ?_⟩
  rw [inCalendar_iff] at hkey
  simp only [calendarFirst, calendarLast] at *
  omega

theorem Regular.bucketKey_eq {k : Int} (h : Regular offset r k) (hk : inCalendar k = true)
    (hday : r = .day → inCalendar (k + offset) = true) :
    bucketKey (fixed name offset).clock r k = k := by
  have hsize := r.size_pos
  have hlocal : localStart offset r k = k + offset :=
    localStart_eq h.starts (Int.le_refl _) (by omega)
  rw [bucketKey_fixed_of_localStart hk hlocal hday]
  omega

theorem Late.nextBucketKey {k : Int} (h : Late r k) :
    Late r (nextBucketKey (fixed name offset).clock r k) := by
  have hsize := r.size_pos
  have hafter := h.after
  show Late r (if _ ≤ k then k + r.size else _)
  split
  · exact h.add_size
  · exact late_bucketKey (by omega)

/-- Where a walk from the calendar on comes to: the start of a bucket that is its own key. -/
def Own (name : String) (offset : Int) (r : Resolution) (k : Int) : Prop :=
  bucketKey (fixed name offset).clock r k = k ∧ (Regular offset r k ∧ k ≤ calendarLast ∨ Late r k)

theorem Late.own {k : Int} (h : Late r k) : Own name offset r k :=
  ⟨h.bucketKey_eq, Or.inr h⟩

theorem Regular.own {k : Int} (h : Regular offset r k) (hk : inCalendar k = true)
    (hday : r = .day → inCalendar (k + offset) = true) : Own name offset r k :=
  ⟨h.bucketKey_eq hk hday, Or.inl ⟨h, (inCalendar_iff.1 hk).2⟩⟩

/-- **A step from a regular instant** is a plain one that ends in the calendar, or it leads out of
the calendar. -/
theorem Regular.next_cases (name : String) {k : Int} (h : Regular offset r k)
    (hk : k ≤ calendarLast) :
    (nextBucketKey (fixed name offset).clock r k = k + r.size ∧
      k + r.size + r.size / 2 ≤ calendarLast ∧
      (r = .day → k + r.size + offset ≤ calendarLast)) ∨
    Late r (nextBucketKey (fixed name offset).clock r k) := by
  have hsize := r.size_pos
  have hroom := h.room
  by_cases hlast : k + r.size + r.size / 2 ≤ calendarLast
  · by_cases hday : r = .day → k + r.size + offset ≤ calendarLast
    · exact Or.inl ⟨h.nextBucketKey_eq hlast hday, hlast, hday⟩
    · -- By local time the next day starts after the calendar, and that start is its key.
      obtain ⟨heq, hafter⟩ : r = .day ∧ calendarLast < k + r.size + offset := by
        by_contra hn
        exact hday fun heq => by_contra fun hgt => hn ⟨heq, by omega⟩
      have hin : inCalendar (k + r.size + r.size / 2) = true := inCalendar_iff.2 ⟨by omega, hlast⟩
      have hlocal : localStart offset r (k + r.size + r.size / 2) = k + r.size + offset :=
        localStart_eq h.step.starts (by omega) (by omega)
      have hout : inCalendar (k + r.size + offset) = false := by
        rw [← Bool.not_eq_true, inCalendar_iff]
        omega
      have hkey : bucketKey (fixed name offset).clock r (k + r.size + r.size / 2) =
          k + r.size + offset := by
        rw [bucketKey_fixed hin, hlocal, if_pos ⟨heq, hout⟩, Int.sub_zero]
      right
      unfold nextBucketKey
      rw [hkey, if_neg (by omega)]
      exact ⟨h.step.starts, hafter⟩
  · have hlate : Late r (bucketKey (fixed name offset).clock r (k + r.size + r.size / 2)) :=
      late_bucketKey (by omega)
    have hafter := hlate.after
    right
    unfold nextBucketKey
    rw [if_neg (by omega)]
    exact hlate

/-- **A step from a regular instant leads to a key of its own,** in the calendar or after it. -/
theorem Regular.own_next {k : Int} (h : Regular offset r k) (hk : k ≤ calendarLast) :
    Own name offset r (nextBucketKey (fixed name offset).clock r k) := by
  have hsize := r.size_pos
  have hroom := h.room
  rcases h.next_cases name hk with ⟨hnext, hlast, hday⟩ | hlate
  · rw [hnext]
    refine h.step.own (inCalendar_iff.2 ⟨hroom, by omega⟩) ?_
    exact fun heq => inCalendar_iff.2 ⟨h.day heq, hday heq⟩
  · exact hlate.own

theorem Own.next {k : Int} (h : Own name offset r k) :
    Own name offset r (nextBucketKey (fixed name offset).clock r k) := by
  obtain ⟨-, ⟨hregular, hk⟩ | hlate⟩ := h
  · exact hregular.own_next hk
  · exact hlate.nextBucketKey.own

/-- A walk from the calendar on begins with a key of its own, unless a day of the zone begins more
than half a day after that of universal time. -/
theorem own_firstKey (name : String) (r : Resolution)
    (hoffset : -(Resolution.day.size / 2) ≤ offset) {t : Int} (ht : calendarFirst ≤ t) :
    Own name offset r (firstKey (fixed name offset).clock r t) := by
  have hnear : -secondsPerDay < offset := by
    simp only [Resolution.size, Resolution.seconds, secondsPerDay] at *
    omega
  unfold firstKey
  by_cases hlast : t ≤ calendarLast
  · have hin : inCalendar t = true := inCalendar_iff.2 ⟨ht, hlast⟩
    rcases bucketKey_fixed_cases name r hnear hin with
      ⟨hregular, hle, hday⟩ | ⟨rfl, hneg, hearly⟩ | hlate
    · split
      · exact hregular.own_next (by omega)
      · have heq : bucketKey (fixed name offset).clock r t = t := by omega
        rw [heq] at hregular hday ⊢
        exact hregular.own hin hday
    · -- The walk enters the calendar at the first local midnight.
      have hsize := Resolution.day.size_pos
      rw [hearly, if_pos (by omega), (nextBucketKey_entering name hnear hneg).1,
        if_neg (by omega)]
      refine (regular_midnight hneg).own (inCalendar_iff.2 ?_) fun _ => ?_
      · simp only [Resolution.size, Resolution.seconds, calendarFirst, calendarLast] at *
        omega
      · rw [Int.sub_add_cancel]
        decide
    · have hafter := hlate.after
      rw [if_neg (by omega)]
      exact hlate.own
  · have hlate : Late r (bucketKey (fixed name offset).clock r t) := late_bucketKey (by omega)
    split
    · exact hlate.nextBucketKey.own
    · exact hlate.own

/-- **The keys of a grid of a fixed zone are their own keys.** -/
theorem bucketKey_of_mem_bucketKeys_fixed (hoffset : -(Resolution.day.size / 2) ≤ offset)
    {start stop k : Int} (hstart : calendarFirst ≤ start)
    (hk : k ∈ bucketKeys (fixed name offset).clock r start stop) :
    bucketKey (fixed name offset).clock r k = k :=
  (forall_mem_bucketKeysFrom (fun _ h => Own.next h) (own_firstKey name r hoffset hstart) k hk).1

/-! ## §5. Buckets on a grid. -/

/-- The step to the bucket of `t` from the one before it ends in the calendar, unless no step is
needed because a walk from `start` begins there.  Where buckets are those of universal time, with
which the calendar ends, the step to every bucket does. -/
def Met (z : Zone) (r : Resolution) (start t : Int) : Prop :=
  bucketKey z.clock r t = start ∨ z.initial % r.size = 0 ∨
    bucketKey z.clock r t + r.size / 2 ≤ calendarLast

instance (z : Zone) (r : Resolution) (start t : Int) : Decidable (z.Met r start t) :=
  inferInstanceAs (Decidable (_ ∨ _ ∨ _))

theorem regular_of_bucketKey_fixed {b : Int} (hb : inCalendar b = true)
    (hself : bucketKey (fixed name offset).clock r b = b) : Regular offset r b := by
  obtain ⟨hmod, hday⟩ := starts_of_bucketKey_fixed hb hself
  have hfirst := (inCalendar_iff.1 hb).1
  have hsize := r.size_pos
  refine ⟨hmod, by omega, ?_⟩
  intro heq
  have hlocal := (inCalendar_iff.1 (hday heq)).1
  omega

/-- A walk from the start of a bucket in the calendar comes to no other start without room for the
step to it, until it leaves the calendar. -/
theorem room_of_mem_bucketKeys_fixed {start stop k : Int} (hstart : inCalendar start = true)
    (hself : bucketKey (fixed name offset).clock r start = start) (hstop : stop ≤ calendarLast + 1)
    (hk : k ∈ bucketKeys (fixed name offset).clock r start stop) :
    k = start ∨ k + r.size / 2 ≤ calendarLast := by
  have hsize := r.size_pos
  have hdates := inCalendar_iff.1 hstart
  have hhop : ∀ k, (Regular offset r k ∧ (k = start ∨ k + r.size / 2 ≤ calendarLast) ∨ Late r k) →
      (Regular offset r (nextBucketKey (fixed name offset).clock r k) ∧
        (nextBucketKey (fixed name offset).clock r k = start ∨
          nextBucketKey (fixed name offset).clock r k + r.size / 2 ≤ calendarLast) ∨
        Late r (nextBucketKey (fixed name offset).clock r k)) := by
    intro k hplaced
    rcases hplaced with ⟨hregular, hroom⟩ | hlate
    · rcases hregular.next_cases name (by omega) with ⟨hnext, hlast, -⟩ | hlate
      · rw [hnext]
        exact Or.inl ⟨hregular.step, Or.inr hlast⟩
      · exact Or.inr hlate
    · exact Or.inr hlate.nextBucketKey
  have hlt := lt_of_mem_bucketKeys hk
  rw [bucketKeys_eq, firstKey_of_self hself] at hk
  have hplaced := forall_mem_bucketKeysFrom hhop
    (Or.inl ⟨regular_of_bucketKey_fixed hstart hself, Or.inl rfl⟩) k hk
  rcases hplaced with ⟨-, hroom⟩ | hlate
  · exact hroom
  · have hafter := hlate.after
    omega

/-- Only a day of another zone than universal time can start after the calendar. -/
theorem not_late_of_initial {t : Int} (hnear : -secondsPerDay < offset ∧ offset < secondsPerDay)
    (ht : inCalendar t = true) (hwhole : offset % r.size = 0) :
    ¬ Late r (bucketKey (fixed name offset).clock r t) := by
  intro hlate
  have hafter := hlate.after
  have hdates := inCalendar_iff.1 ht
  obtain ⟨hle, hlt⟩ := localStart_bounds offset r t
  rw [bucketKey_fixed ht] at hafter
  split at hafter
  · rename_i hday
    obtain ⟨rfl, -⟩ := hday
    simp only [Resolution.size, Resolution.seconds, secondsPerDay] at *
    omega
  · omega

/-- **The grid of a range that begins with a bucket** has the key of an instant of the range if and
only if the walk can step to it. -/
theorem mem_bucketKeys_fixed_iff {start stop t : Int}
    (hnear : -secondsPerDay < offset ∧ offset < secondsPerDay) (hfirst : calendarFirst ≤ start)
    (hself : bucketKey (fixed name offset).clock r start = start) (hle : start ≤ t) (hlt : t < stop)
    (hlast : stop ≤ calendarLast + 1) :
    bucketKey (fixed name offset).clock r t ∈ bucketKeys (fixed name offset).clock r start stop ↔
      Met (fixed name offset) r start t := by
  have hstart : inCalendar start = true := inCalendar_iff.2 ⟨hfirst, by omega⟩
  have ht : inCalendar t = true := inCalendar_iff.2 ⟨by omega, by omega⟩
  have hsize := r.size_pos
  have hside : start ≤ bucketKey (fixed name offset).clock r t := by
    have hiff := bucketKey_fixed_lt_iff hstart hself t
    omega
  constructor
  · intro hk
    rcases room_of_mem_bucketKeys_fixed hstart hself hlast hk with heq | hroom
    · exact Or.inl heq
    · exact Or.inr (Or.inr hroom)
  · intro hmet
    rcases hmet with heq | hroom
    · rw [heq]
      exact mem_bucketKeys_of_self hself (by omega)
    · rcases bucketKey_fixed_cases name r hnear.1 ht with
        ⟨hregular, hkeyle, hday⟩ | ⟨-, -, hearly⟩ | hlate
      · have hin : inCalendar (bucketKey (fixed name offset).clock r t) = true :=
          inCalendar_iff.2 ⟨by omega, by omega⟩
        have hown : bucketKey (fixed name offset).clock r
            (bucketKey (fixed name offset).clock r t) = bucketKey (fixed name offset).clock r t :=
          hregular.bucketKey_eq hin hday
        by_cases heq : bucketKey (fixed name offset).clock r t = start
        · rw [heq]
          exact mem_bucketKeys_of_self hself (by omega)
        · -- The grid is cut at the start of the bucket, which is the first key behind the cut.
          rw [bucketKeys_fixed_append hnear.1 hfirst (by omega) (show _ ≤ stop by omega)
            (by omega) ⟨hown, hroom⟩]
          exact List.mem_append_right _ (mem_bucketKeys_of_self hown (by omega))
      · omega
      · have hafter := hlate.after
        rcases hroom with hwhole | hroom
        · exact absurd hlate (not_late_of_initial hnear ht hwhole)
        · omega

end MetricQuery.Zone
