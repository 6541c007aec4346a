/-
  MetricQuery.Proofs.Time.Nesting
  ───────────────────────────────
  **SMALL BUCKETS INSIDE LARGE ONES.**

  The sizes of buckets divide each other, so a local time that was cut down to a
  small size is cut down to a large one as before.  If every change of the zone
  starts a small bucket, the small bucket has the offset of its instants from
  its start on, and so its key lies in the large bucket in which they lie.  Only
  the first small bucket of the calendar may start before the calendar does,
  where universal time is used.

    • `sub_emod_sub_emod`         — cutting down twice,
    • `Zone.localStart_of_start`  — a large bucket from the start of a small one,
    • `Aligned.offsetAt_bucketKey` — a small bucket has one offset from its start on,
    • `Aligned.bucketKey_day_self` — the first of two midnights starts the same day,
    • `Aligned.bucketKey_bucketKey` — keys of keys.
-/
import MetricQuery.Proofs.Time.Fixed

namespace MetricQuery

variable {f c : Resolution}

/-! ## §1. Sizes. -/

/-- A smaller size divides a larger one. -/
theorem Resolution.size_dvd (h : f.seconds ≤ c.seconds) : f.size ∣ c.size := by
  revert h
  cases f <;> cases c <;> decide

/-- **Cutting down twice** is cutting down once, to the larger of two sizes. -/
theorem sub_emod_sub_emod {m n : Int} (hm : 0 < m) (hn : 0 < n) (hdvd : m ∣ n) (t : Int) :
    t - t % m - (t - t % m) % n = t - t % n := by
  have hnonneg := Int.emod_nonneg t (Int.ne_of_gt hm)
  have hlt := Int.emod_lt_of_pos t hn
  -- What the small size cuts off is part of what the large one does.
  have hpart : t % m ≤ t % n := by
    rw [← Int.emod_emod_of_dvd t hdvd]
    have hdivision := Int.mul_ediv_add_emod (t % n) m
    have hquotient : 0 ≤ m * (t % n / m) :=
      Int.mul_nonneg (Int.le_of_lt hm)
        (Int.ediv_nonneg (Int.emod_nonneg t (Int.ne_of_gt hn)) (Int.le_of_lt hm))
    omega
  have hrest : (t - t % m) % n = t % n - t % m := by
    have hdivision := Int.mul_ediv_add_emod t n
    rw [show t - t % m = t % n - t % m + n * (t / n) by omega, Int.add_mul_emod_self_left]
    exact Int.emod_eq_of_lt (by omega) (by omega)
  omega

namespace Zone

variable {z : Zone} {t k : Int}

/-! ## §2. Keys by the same offset. -/

/-- A large bucket from the start of a small one. -/
theorem localStart_of_start {offset : Int} (hle : f.seconds ≤ c.seconds)
    (hk : k + offset = localStart offset f t) :
    localStart offset c k = localStart offset c t := by
  unfold localStart at hk ⊢
  rw [hk]
  exact sub_emod_sub_emod f.size_pos c.size_pos (Resolution.size_dvd hle) (t + offset)

/-- Two instants with one offset whose bucket starts at one local time have one key. -/
theorem bucketKey_congr_start {clock : Clock} {offset : Int} (ht : clock.offsetAt t = offset)
    (hk : clock.offsetAt k = offset) (hstart : localStart offset c k = localStart offset c t) :
    bucketKey clock c k = bucketKey clock c t := by
  unfold localStart at hstart
  rw [bucketKey_eq_sub ht, bucketKey_eq_sub hk, hstart]

/-! ## §3. Keys of keys. -/

/-- Outside of the calendar buckets are those of universal time, and they nest. -/
theorem bucketKey_bucketKey_of_not_inCalendar (hle : f.seconds ≤ c.seconds)
    (ht : ¬ inCalendar t = true) :
    bucketKey z.clock c (bucketKey z.clock f t) = bucketKey z.clock c t := by
  rw [bucketKey_of_not_inCalendar ht, bucketKey_of_not_inCalendar ht,
    bucketKey_of_not_inCalendar (not_inCalendar_sub_emod f ht)]
  exact sub_emod_sub_emod f.size_pos c.size_pos (Resolution.size_dvd hle) t

/-- A bucket smaller than a day starts with the offset of its instants. -/
theorem Aligned.offsetAt_bucketKey (h : z.Aligned f) (hf : f ≠ .day) (ht : inCalendar t = true)
    (hkey : inCalendar (bucketKey z.clock f t) = true) :
    z.offsetAt (bucketKey z.clock f t) = z.offsetAt t := by
  have htable : z.offsetAt t = offsetFrom z.initial z.transitions t := if_pos ht
  rw [show z.offsetAt (bucketKey z.clock f t) =
    offsetFrom z.initial z.transitions (bucketKey z.clock f t) from if_pos hkey,
    h.bucketKey_eq hf, htable]
  exact offsetFrom_start h t

/-- **Buckets smaller than a day** have their keys where larger ones expect them. -/
theorem Aligned.bucketKey_bucketKey_of_ne_day (h : z.Aligned f) (hf : f ≠ .day)
    (hle : f.seconds ≤ c.seconds) (ht : inCalendar t = true)
    (hfirst : calendarFirst ≤ bucketKey z.clock f t) :
    bucketKey z.clock c (bucketKey z.clock f t) = bucketKey z.clock c t := by
  have hkey := h.bucketKey_eq hf t
  have hnonneg := Int.emod_nonneg (t + z.offsetAt t) (Int.ne_of_gt f.size_pos)
  have hlast := (inCalendar_iff.1 ht).2
  have hoffset := h.offsetAt_bucketKey hf ht (inCalendar_iff.2 ⟨hfirst, by omega⟩)
  have hstart : localStart (z.offsetAt t) c (bucketKey z.clock f t) =
      localStart (z.offsetAt t) c t := by
    refine localStart_of_start hle ?_
    unfold localStart
    omega
  exact bucketKey_congr_start (show z.clock.offsetAt t = z.offsetAt t from rfl) hoffset hstart

/-- The earlier of two starts is a start, and no offset that shows it is larger. -/
theorem localOffset_none_of_mem {x o : Int} (hx : inCalendar x = true) (ho : o ∈ z.candidates x) :
    z.localOffset x none ∈ z.candidates x ∧ o ≤ z.localOffset x none := by
  unfold localOffset
  rw [if_pos hx]
  cases hcandidates : z.candidates x with
  | nil =>
      rw [hcandidates] at ho
      cases ho
  | cons p ps =>
      rw [hcandidates] at ho
      have hmax : (p :: ps).max? = some (ps.foldl max p) := List.max?_cons'
      have hlargest := List.max?_eq_some_iff.1 hmax
      exact ⟨hlargest.1, hlargest.2 o ho⟩

/-- **A day starts on the same day.**  Of two midnights the first one is chosen, and it is chosen
again from there. -/
theorem Aligned.bucketKey_day_self (h : z.Aligned .day) (ht : inCalendar t = true)
    (hfirst : calendarFirst ≤ bucketKey z.clock .day t) :
    bucketKey z.clock .day (bucketKey z.clock .day t) = bucketKey z.clock .day t := by
  have hkey : ∀ u offset, z.offsetAt u = offset → bucketKey z.clock .day u =
      localStart offset .day u - z.localOffset (localStart offset .day u) none :=
    fun u offset hu => bucketKey_eq_sub (show z.clock.offsetAt u = offset from hu)
  have hmidnight := localStart_emod (z.offsetAt t) .day t
  obtain ⟨hle, -⟩ := localStart_bounds (z.offsetAt t) .day t
  have hshown : z.offsetAt t ∈ z.candidates (localStart (z.offsetAt t) .day t) :=
    h.mem_candidates_start ht
  rw [hkey t _ rfl] at hfirst ⊢
  generalize localStart (z.offsetAt t) .day t = x at *
  by_cases hx : inCalendar x = true
  · obtain ⟨hchosen, hearlier⟩ := localOffset_none_of_mem hx hshown
    have hcalendar : inCalendar (x - z.localOffset x none) = true := by
      have hlast := (inCalendar_iff.1 ht).2
      exact inCalendar_iff.2 ⟨hfirst, by omega⟩
    have hoffset : z.offsetAt (x - z.localOffset x none) = z.localOffset x none :=
      (if_pos hcalendar).trans (mem_candidates_iff.1 hchosen)
    rw [hkey _ _ hoffset]
    unfold localStart
    rw [Int.sub_add_cancel, hmidnight, Int.sub_zero]
  · -- A midnight without a date is one of universal time.
    have hzero : z.localOffset x none = 0 := by
      unfold localOffset
      rw [if_neg hx]
      exact if_neg hx
    rw [hzero, Int.sub_zero, bucketKey_of_not_inCalendar hx, hmidnight, Int.sub_zero]

/-- **Keys of keys:** the large bucket of the key of a small bucket is that of the instants in the
small one, as long as this does not start before the calendar. -/
theorem Aligned.bucketKey_bucketKey (h : z.Aligned f) (hle : f.seconds ≤ c.seconds)
    (hfirst : calendarFirst ≤ t → calendarFirst ≤ bucketKey z.clock f t) :
    bucketKey z.clock c (bucketKey z.clock f t) = bucketKey z.clock c t := by
  by_cases ht : inCalendar t = true
  · have hkey := hfirst (inCalendar_iff.1 ht).1
    by_cases hf : f = .day
    · -- Nothing is larger than a day.
      have hc : c = .day := by
        revert hle
        rw [hf]
        cases c <;> decide
      rw [hf] at h hkey
      rw [hf, hc]
      exact h.bucketKey_day_self ht hkey
    · exact h.bucketKey_bucketKey_of_ne_day hf hle ht hkey
  · exact bucketKey_bucketKey_of_not_inCalendar hle ht

end Zone
end MetricQuery
