/-
  MetricQuery.Proofs.Time.Calm
  ────────────────────────────
  **GRIDS OF CALM ZONES.**

  Keys, hops and the entry to a range look at a few days only.  Where the clock
  follows one change for those days, its walk is the walk over that change, and
  so the grids of a calm zone agree with the keys if and only if each of its
  changes fits.

    • `Governs.bucketKey_eq`, `Governs.isKey_iff` — the same buckets and keys,
    • `Governs.isFirstKey_iff`  — the same first keys,
    • `gridsAgree_calm_iff`     — calm zones, change by change,
    • `gridsAgree_condition`    — any clock step by step, and calm zones by their tables.
-/
import MetricQuery.Proofs.Time.Fit
import MetricQuery.Proofs.Time.Table
import MetricQuery.Time.Catalog

namespace MetricQuery

namespace Change

variable {c : Change} {clock : Clock} {r : Resolution} {t : Int}

/-! ## §1. The same buckets. -/

theorem Governs.bucketKey_eq {lo hi : Int} (h : c.Governs clock lo hi) (hsmall : c.Small) {u : Int}
    (hlo : lo + 97200 ≤ u) (hhi : u + 10800 < hi) :
    bucketKey clock r u = bucketKey c.clock r u := by
  obtain ⟨hback, hforth⟩ := hsmall
  have hpos := r.size_pos
  have hle := r.size_le
  simp only [shift] at hback hforth
  have hoffset := h.offsetAt u (by omega) (by omega)
  have hnonneg := Int.emod_nonneg (u + c.clock.offsetAt u) (Int.ne_of_gt hpos)
  have hlt := Int.emod_lt_of_pos (u + c.clock.offsetAt u) hpos
  -- The start of the bucket is taken back by one of the two offsets, and both are near.
  have heither := offsetAt_clock_cases c u
  have hlocal := h.localOffset (u + c.clock.offsetAt u - (u + c.clock.offsetAt u) % r.size)
    (if r = .day then none else some (c.clock.offsetAt u)) (by omega) (by omega) (by omega)
    (by omega)
  rw [bucketKey_eq_sub hoffset, bucketKey_eq_sub rfl, hlocal]

/-! ## §2. The same keys. -/

/-- The clock follows the change for five days around `t`, and keys are never far from the
instants of their buckets. -/
structure Around (c : Change) (clock : Clock) (r : Resolution) (t : Int) : Prop where
  small : c.Small
  governs : c.Governs clock (t - 432000) (t + 432000)
  near : ∀ u, u - 259200 < bucketKey clock r u ∧ bucketKey clock r u < u + 172800

theorem Around.bucketKey_eq (h : Around c clock r t) {u : Int} (hlo : t - 334800 ≤ u)
    (hhi : u < t + 421200) : bucketKey clock r u = bucketKey c.clock r u :=
  h.governs.bucketKey_eq h.small (by omega) (by omega)

theorem Around.isKey_iff (h : Around c clock r t) {k : Int} (hlo : t - 162000 ≤ k)
    (hhi : k ≤ t + 162000) : IsKey clock r k ↔ IsKey c.clock r k := by
  constructor
  · rintro ⟨u, rfl⟩
    have hnear := h.near u
    exact ⟨u, (h.bucketKey_eq (by omega) (by omega)).symm⟩
  · rintro ⟨u, rfl⟩
    have hnear := bucketKey_near h.small r u
    exact ⟨u, h.bucketKey_eq (by omega) (by omega)⟩

/-- First keys within the next days are the same. -/
theorem Around.isFirstKey_iff (h : Around c clock r t) {since n : Int} (hlo : t ≤ since)
    (hhi : n ≤ t + 162000) : IsFirstKey clock r since n ↔ IsFirstKey c.clock r since n := by
  constructor
  · -- A key that is too far away to be compared is not before `n`.
    rintro ⟨⟨hsince, hkey⟩, hleast⟩
    refine ⟨⟨hsince, (h.isKey_iff (by omega) hhi).1 hkey⟩, ?_⟩
    rintro x ⟨hx, hxkey⟩
    by_contra hlt
    exact hlt (hleast ⟨hx, (h.isKey_iff (by omega) (by omega)).2 hxkey⟩)
  · rintro ⟨⟨hsince, hkey⟩, hleast⟩
    refine ⟨⟨hsince, (h.isKey_iff (by omega) hhi).2 hkey⟩, ?_⟩
    rintro x ⟨hx, hxkey⟩
    by_contra hlt
    exact hlt (hleast ⟨hx, (h.isKey_iff (by omega) (by omega)).1 hxkey⟩)

theorem Around.nextBucketKey_eq (h : Around c clock r t) {k : Int} (hlo : t - 97200 ≤ k)
    (hhi : k ≤ t + 10800) : nextBucketKey clock r k = nextBucketKey c.clock r k := by
  have hpos := r.size_pos
  have hle := r.size_le
  unfold nextBucketKey
  rw [h.bucketKey_eq (by omega) (by omega)]

theorem Around.firstKey_eq (h : Around c clock r t) :
    firstKey clock r t = firstKey c.clock r t := by
  have hnear := bucketKey_near h.small r t
  unfold firstKey
  rw [h.bucketKey_eq (by omega) (by omega), h.nextBucketKey_eq (by omega) (by omega)]

/-- A hop is not longer than a day and a half and three hours. -/
theorem nextBucketKey_le (hsmall : c.Small) (r : Resolution) (k : Int) :
    nextBucketKey c.clock r k ≤ k + 140400 := by
  have hle := r.size_le
  have hnear := bucketKey_near hsmall r (k + r.size + r.size / 2)
  rcases nextBucketKey_cases c.clock r k with ⟨-, heq⟩ | ⟨-, heq⟩
  · omega
  · omega

theorem firstKey_le (hsmall : c.Small) (r : Resolution) (t : Int) :
    firstKey c.clock r t ≤ t + 140400 := by
  have hnear := bucketKey_near hsmall r t
  have hnext := nextBucketKey_le hsmall r (bucketKey c.clock r t)
  unfold firstKey
  split
  · omega
  · omega

/-- **Where the change fits, the walk lands.** -/
theorem Around.isFirstKey_of_fits (h : Around c clock r t) (hfits : c.Fits r) :
    IsFirstKey clock r t (firstKey clock r t) ∧
      (IsKey clock r t → IsFirstKey clock r (t + 1) (nextBucketKey clock r t)) := by
  obtain ⟨resume, joint, hsmooth⟩ := smooth_of_fits h.small hfits
  have hfirst := firstKey_le h.small r t
  have hnext := nextBucketKey_le h.small r t
  constructor
  · rw [h.firstKey_eq, h.isFirstKey_iff (Int.le_refl t) (by omega)]
    exact hsmooth.isFirstKey_enter t
  · intro hkey
    rw [h.nextBucketKey_eq (by omega) (by omega), h.isFirstKey_iff (by omega) (by omega)]
    exact hsmooth.isFirstKey_hop ((h.isKey_iff (by omega) (by omega)).1 hkey)

/-- **Where the walk lands, the change fits.** -/
theorem fits_of_around (clock : Clock) (hsmall : c.Small)
    (hsteps : ∀ t, c.instant - 172800 ≤ t → t ≤ c.instant + 86400 → Around c clock r t ∧
      IsFirstKey clock r t (firstKey clock r t) ∧
      (IsKey clock r t → IsFirstKey clock r (t + 1) (nextBucketKey clock r t))) : c.Fits r := by
  refine (steps_iff_fits hsmall).1 ?_
  intro t hlo hhi
  obtain ⟨haround, hfirst, hnext⟩ := hsteps t hlo hhi
  have hfirstLe := firstKey_le hsmall r t
  have hnextLe := nextBucketKey_le hsmall r t
  constructor
  · rwa [haround.firstKey_eq, haround.isFirstKey_iff (Int.le_refl t) (by omega)] at hfirst
  · intro hkey
    have hstep := hnext ((haround.isKey_iff (by omega) (by omega)).2 hkey)
    rwa [haround.nextBucketKey_eq (by omega) (by omega),
      haround.isFirstKey_iff (by omega) (by omega)] at hstep

theorem fits_of_shift_eq_zero (h : c.shift = 0) (r : Resolution) : c.Fits r := by
  have hpos := r.size_pos
  have hnonneg : 0 ≤ c.wait r := wait_nonneg
  unfold Fits
  rw [h]
  split
  · exact Or.inl (Int.le_refl 0)
  · split
    · rw [Int.zero_emod]
      omega
    · exact Or.inr ⟨by omega, by omega, by omega⟩

end Change

namespace Zone

variable {z : Zone} {c : Change} {r : Resolution}

/-! ## §3. Zones. -/

/-- In a calm zone keys are never far from the instants of their buckets. -/
theorem Calm.bucketKey_near (h : z.Calm) (r : Resolution) (u : Int) :
    u - 259200 < bucketKey z.clock r u ∧ bucketKey z.clock r u < u + 172800 := by
  have hpos := r.size_pos
  have hle := r.size_le
  obtain ⟨hlow, hhigh⟩ := h.offsetAt_lt u
  have hnonneg := Int.emod_nonneg (u + z.offsetAt u) (Int.ne_of_gt hpos)
  have hlt := Int.emod_lt_of_pos (u + z.offsetAt u) hpos
  -- A preferred offset is one in effect, and those are less than a day, too.
  have hpreferred : ∀ p, (if r = .day then none else some (z.offsetAt u)) = some p →
      -86400 < p ∧ p < 86400 := by
    intro p hp
    split at hp
    · cases hp
    · cases hp
      exact ⟨hlow, hhigh⟩
  obtain ⟨hlow', hhigh'⟩ :=
    h.localOffset_lt (u + z.offsetAt u - (u + z.offsetAt u) % r.size) hpreferred
  have hkey : bucketKey z.clock r u = u + z.offsetAt u - (u + z.offsetAt u) % r.size -
      z.localOffset (u + z.offsetAt u - (u + z.offsetAt u) % r.size)
        (if r = .day then none else some (z.offsetAt u)) := bucketKey_eq_sub rfl
  omega

/-- A calm zone that follows a change for eight days does so for five. -/
theorem Calm.around (h : z.Calm) {t : Int} (hf : z.Follows c (t - calmReach) (t + calmReach)) :
    c.Around z.clock r t where
  small := hf.small
  governs := by
    have hgov := hf.governs
    have hreach : calmReach = 691200 := rfl
    refine ⟨fun u hlo hhi => hgov.offsetAt u (by omega) (by omega), ?_⟩
    intro x preferred hlo hhi hlo' hhi'
    exact hgov.localOffset x preferred (by omega) (by omega) (by omega) (by omega)
  near := h.bucketKey_near r

/-- **The grids of a calm zone agree with the keys,** on a stretch that is quiet at its ends, if and
only if every change on the stretch fits. -/
theorem gridsAgree_calm_iff (h : z.Calm) (r : Resolution) {lo hi : Int}
    (hfirst : calendarFirst + calmReach ≤ lo) (hlast : hi ≤ calendarLast - calmReach)
    (hlo : z.Quiet lo) (hhi : z.Quiet hi) :
    GridsAgree z.clock r lo hi ↔
      ∀ c ∈ z.changes, lo ≤ c.instant → c.instant < hi → c.Fits r := by
  have hreach : calmReach = 691200 := rfl
  rw [gridsAgree_iff]
  constructor
  · intro hsteps c hc hclo hchi
    have hawayLo := hlo c hc
    have hawayHi := hhi c hc
    have hsmall := h.small c hc
    refine Change.fits_of_around z.clock hsmall ?_
    intro t htlo hthi
    -- The ends are quiet, so the days around the change lie on the stretch.
    have haround : c.Around z.clock r t :=
      h.around (h.follows_of_mem hc (by omega) (by omega) (by omega) (by omega))
    have hfirstLe := Change.firstKey_le hsmall r t
    have hnextLe := Change.nextBucketKey_le hsmall r t
    refine ⟨haround, ?_, ?_⟩
    · refine (hsteps.enter t (by omega) (by omega) _ ?_).1 rfl
      rw [haround.firstKey_eq]
      omega
    · intro hkey
      refine (hsteps.hop t hkey (by omega) (by omega) _ ?_).1 rfl
      rw [haround.nextBucketKey_eq (by omega) (by omega)]
      omega
  · intro hfits
    have hland : ∀ t, lo ≤ t → t < hi → IsFirstKey z.clock r t (firstKey z.clock r t) ∧
        (IsKey z.clock r t → IsFirstKey z.clock r (t + 1) (nextBucketKey z.clock r t)) := by
      intro t htlo hthi
      obtain ⟨c, hc, hfollows⟩ := h.exists_follows (t := t) (by omega) (by omega)
      refine (h.around hfollows).isFirstKey_of_fits ?_
      rcases hc with ⟨hc, hclo, hchi⟩ | hzero
      · -- A change so close to the stretch lies on it.
        have hawayLo := hlo c hc
        have hawayHi := hhi c hc
        exact hfits c hc (by omega) (by omega)
      · exact Change.fits_of_shift_eq_zero hzero r
    constructor
    · intro t htlo hthi
      exact (hland t htlo hthi).1.lands
    · intro k hkey hklo hkhi
      exact ((hland k hklo hkhi).2 hkey).lands

end Zone

/-! ## §4. The condition. -/

/-- **When grids and rollups agree.**  On any stretch of time, if and only if every step of the walk
lands; in a calm zone, on a stretch that is quiet at its ends, if and only if every change on it
fits.  Where they agree, a grid loses no value of a rollup in its range and has no key outside of
it. -/
theorem gridsAgree_condition (z : Zone) (r : Resolution) :
    (∀ lo hi, GridsAgree z.clock r lo hi ↔ StepsLand z.clock r lo hi) ∧
    (∀ lo hi, z.Calm → calendarFirst + Zone.calmReach ≤ lo → hi ≤ calendarLast - Zone.calmReach →
      z.Quiet lo → z.Quiet hi →
      (GridsAgree z.clock r lo hi ↔ ∀ c ∈ z.changes, lo ≤ c.instant → c.instant < hi → c.Fits r)) ∧
    (∀ lo hi start stop, GridsAgree z.clock r lo hi → lo ≤ start → start < stop → stop ≤ hi →
      ∀ (α : Type) [Quantity α] (agg : Aggregation) (pad : Padding α) (s : Series α) (k : Int),
        (∀ v, start ≤ k → k < stop → (s.rollup z.clock r agg pad)[k]? = some v →
          ((s.rollup z.clock r agg pad).onto (bucketKeys z.clock r start stop) pad)[k]? = some v) ∧
        (((s.rollup z.clock r agg pad).onto (bucketKeys z.clock r start stop) pad)[k]? ≠ none →
          start ≤ k ∧ k < stop)) := by
  refine ⟨fun lo hi => gridsAgree_iff, ?_, ?_⟩
  · intro lo hi hcalm hfirst hlast hlo hhi
    exact Zone.gridsAgree_calm_iff hcalm r hfirst hlast hlo hhi
  · intro lo hi start stop hagree hlo hlt hhi α _ agg pad s k
    exact hagree.getElem?_onto hlo hlt hhi agg pad s k

/-- New York changes its clocks by whole hours at whole hours, and its grids of hours and of days
are right all over the calendar, but for eight days at either end. -/
theorem gridsAgree_newYork :
    GridsAgree Zone.newYork.clock .hour (calendarFirst + Zone.calmReach)
        (calendarLast - Zone.calmReach) ∧
      GridsAgree Zone.newYork.clock .day (calendarFirst + Zone.calmReach)
        (calendarLast - Zone.calmReach) := by
  have hcalm : Zone.newYork.Calm :=
    ⟨by decide +kernel, by decide +kernel, by decide +kernel, by decide +kernel⟩
  have hquiet : Zone.newYork.Quiet (calendarFirst + Zone.calmReach) ∧
      Zone.newYork.Quiet (calendarLast - Zone.calmReach) :=
    ⟨by decide +kernel, by decide +kernel⟩
  have hagree : ∀ r, (∀ c ∈ Zone.newYork.changes, c.Fits r) →
      GridsAgree Zone.newYork.clock r (calendarFirst + Zone.calmReach)
        (calendarLast - Zone.calmReach) := by
    intro r hfits
    exact ((gridsAgree_condition Zone.newYork r).2.1 _ _ hcalm (Int.le_refl _) (Int.le_refl _)
      hquiet.1 hquiet.2).2 fun c hc _ _ => hfits c hc
  exact ⟨hagree .hour (by decide +kernel), hagree .day (by decide +kernel)⟩

/-- **A half-hour shift hides a key.**  On Lord Howe Island clocks went forward by half an hour, and
the hours from then on start half an hour later; the hop from the last full hour before the change
leads past the bucket of the half hour that is left. -/
theorem grid_of_lordHowe_lacks_key :
    ¬ GridsAgree Zone.lordHowe.clock .hour 1286022600 1286044200 ∧
      IsKey Zone.lordHowe.clock .hour 1286033400 ∧
      bucketKeys Zone.lordHowe.clock .hour 1286022600 1286044200 =
        [1286022600, 1286026200, 1286029800, 1286035200, 1286038800, 1286042400] := by
  have hkey : IsKey Zone.lordHowe.clock .hour 1286033400 := ⟨1286033400, by decide +kernel⟩
  have hgrid : bucketKeys Zone.lordHowe.clock .hour 1286022600 1286044200 =
      [1286022600, 1286026200, 1286029800, 1286035200, 1286038800, 1286042400] := by
    decide +kernel
  refine ⟨?_, hkey, hgrid⟩
  intro h
  have hmem := ((h 1286022600 1286044200 (by omega) (by omega) (by omega)).2 1286033400).2
    ⟨by omega, by omega, hkey⟩
  rw [hgrid] at hmem
  revert hmem
  decide

end MetricQuery
