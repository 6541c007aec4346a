/-
  MetricQuery.Proofs.Time.Intervals
  ─────────────────────────────────
  **BUCKETS AS INTERVALS.**

  A bucket is an interval of time that begins at its key if no key is after its
  instants, every key is its own, and keys come in order.  Whether this is so
  depends on the bucket that is under way at each change of the clock: the start
  that it keeps must be neither after the change nor before the last start by
  the old offset.

    • `KeyLaws`                  — the three laws of keys on a stretch of time,
    • `KeyLaws.isLeast_bucket`, `KeyLaws.mem_bucket_of_between` — buckets as intervals,
    • `Change.Settles`           — the condition on one change,
    • `keyLaws_iff_settles`      — the laws hold where every change settles, and only there,
    • `monrovia_minute_starts_late` — a minute that starts three quarters of an hour after its
                                   first second.
-/
import MetricQuery.Proofs.Time.Paced
import MetricQuery.Time.Catalog

namespace MetricQuery

/-! ## §1. The laws. -/

/-- On a stretch of time keys are not after their instants, are keys of themselves, and come in
order. -/
structure KeyLaws (clock : Clock) (r : Resolution) (lo hi : Int) : Prop where
  le : ∀ t, lo ≤ t → t ≤ hi → bucketKey clock r t ≤ t
  self : ∀ t, lo ≤ t → t ≤ hi → bucketKey clock r (bucketKey clock r t) = bucketKey clock r t
  mono : ∀ t u, lo ≤ t → t ≤ u → u ≤ hi → bucketKey clock r t ≤ bucketKey clock r u

/-- The instants of a stretch of time that have this key. -/
def bucket (clock : Clock) (r : Resolution) (lo hi key : Int) : Set Int :=
  {t | lo ≤ t ∧ t ≤ hi ∧ bucketKey clock r t = key}

namespace KeyLaws

variable {clock : Clock} {r : Resolution} {lo hi : Int}

/-- Keys are in order if they are from each second to the next. -/
theorem of_succ (hle : ∀ t, lo ≤ t → t ≤ hi → bucketKey clock r t ≤ t)
    (hself : ∀ t, lo ≤ t → t ≤ hi →
      bucketKey clock r (bucketKey clock r t) = bucketKey clock r t)
    (hsucc : ∀ t, lo ≤ t → t < hi → bucketKey clock r t ≤ bucketKey clock r (t + 1)) :
    KeyLaws clock r lo hi where
  le := hle
  self := hself
  mono t u hlo htu hhi := by
    induction u, htu using Int.leInduction with
    | base => exact Int.le_refl _
    | succ u htu ih => exact Int.le_trans (ih (by omega)) (hsucc u (by omega) (by omega))

/-- **A bucket begins at its key.** -/
theorem isLeast_bucket (h : KeyLaws clock r lo hi) {t : Int} (hkey : lo ≤ bucketKey clock r t)
    (hlo : lo ≤ t) (hhi : t ≤ hi) :
    IsLeast (bucket clock r lo hi (bucketKey clock r t)) (bucketKey clock r t) := by
  have hle := h.le t hlo hhi
  refine ⟨⟨hkey, by omega, h.self t hlo hhi⟩, ?_⟩
  intro u hu
  obtain ⟨hulo, huhi, heq⟩ := hu
  have hule := h.le u hulo huhi
  omega

/-- **A bucket has no gaps.** -/
theorem mem_bucket_of_between (h : KeyLaws clock r lo hi) {key t u v : Int}
    (ht : t ∈ bucket clock r lo hi key) (hv : v ∈ bucket clock r lo hi key) (htu : t ≤ u)
    (huv : u ≤ v) : u ∈ bucket clock r lo hi key := by
  obtain ⟨hlo, -, hfirst⟩ := ht
  obtain ⟨-, hhi, hlast⟩ := hv
  have hsince := h.mono t u hlo htu (by omega)
  have huntil := h.mono u v (by omega) huv hhi
  exact ⟨by omega, by omega, by omega⟩

end KeyLaws

/-! ## §2. One change. -/

namespace Change

variable {c : Change} {r : Resolution} {t : Int}

/-- The change starts a bucket by the new offset, or the start that the bucket under way keeps is
not after the change and not before the last start by the old offset. -/
def Settles (c : Change) (r : Resolution) : Prop :=
  c.wait r = 0 ∨ (0 ≤ c.wait r + c.shift ∧ c.wait r + c.shift ≤ r.size)

instance (c : Change) (r : Resolution) : Decidable (c.Settles r) := by
  unfold Settles
  infer_instance

/-- A change of nothing settles. -/
theorem settles_of_shift_eq_zero (h : c.shift = 0) : c.Settles r := by
  have hnonneg : 0 ≤ c.wait r := wait_nonneg
  have hlt : c.wait r < r.size := wait_lt
  exact Or.inr ⟨by omega, by omega⟩

/-- **A change that settles has an orderly seam,** and the bucket under way starts by then. -/
theorem Settles.exists_orderly (hsmall : c.Small) (h : c.Settles r) :
    ∃ resume joint, Seam.Orderly c r resume joint ∧ (c.instant < resume → joint ≤ c.instant) := by
  obtain ⟨hback, -⟩ := hsmall
  have hnonneg : 0 ≤ c.wait r := wait_nonneg
  have hjoint : c.joint r = c.instant + c.wait r - r.size + c.shift := rfl
  by_cases hsecond : r = .day ∧ c.wait r = 0 ∧ c.shift < 0
  · -- The change is the second start of a day.
    obtain ⟨rfl, hwait, hneg⟩ := hsecond
    have hday : Resolution.day.size = 86400 := rfl
    have hspd : secondsPerDay = 86400 := rfl
    have hseam := seam_of_second_start hwait hneg (by omega)
    exact ⟨_, _, ⟨hseam, fun _ => by omega, fun _ => by omega⟩, fun _ => by omega⟩
  · have hcases : c.wait r ≠ 0 → 0 ≤ c.wait r + c.shift ∧ c.wait r + c.shift ≤ r.size :=
      fun hwait => h.resolve_left hwait
    have hday : r = .day → 0 ≤ c.wait r + c.shift := by
      intro hr
      by_cases hwait : c.wait r = 0
      · have hneg : ¬ c.shift < 0 := fun hlt => hsecond ⟨hr, hwait, hlt⟩
        omega
      · exact (hcases hwait).1
    refine ⟨_, _, ⟨seam_of_wait hday, ?_, ?_⟩, ?_⟩
    · intro hresume
      have hbounds := hcases (by omega)
      omega
    · intro hresume
      have hbounds := hcases (by omega)
      omega
    · intro hresume
      have hbounds := hcases (by omega)
      omega

/-- A key is not after its instant, before the change or if the change settles. -/
theorem bucketKey_le_self (hsmall : c.Small) (h : c.Settles r ∨ t < c.instant) :
    bucketKey c.clock r t ≤ t := by
  by_cases hlt : t < c.instant
  · exact (seam_before hlt).2.1
  · obtain ⟨resume, joint, horderly, hjoint⟩ := (h.resolve_right hlt).exists_orderly hsmall
    by_cases hresume : t < resume
    · rw [horderly.seam.during t (by omega) hresume]
      have hle := hjoint (by omega)
      omega
    · exact (horderly.seam.after t (by omega)).2.2.1

/-- It is its own key. -/
theorem bucketKey_bucketKey (hsmall : c.Small) (h : c.Settles r ∨ t < c.instant) :
    bucketKey c.clock r (bucketKey c.clock r t) = bucketKey c.clock r t := by
  by_cases hlt : t < c.instant
  · obtain ⟨hold, hle, -⟩ := seam_before (r := r) hlt
    exact bucketKey_of_starts (by omega) hold
  · obtain ⟨resume, joint, horderly, -⟩ := (h.resolve_right hlt).exists_orderly hsmall
    exact horderly.bucketKey_self ⟨t, rfl⟩

/-- And keys come in order. -/
theorem bucketKey_le_succ (hsmall : c.Small) (h : c.Settles r ∨ t + 1 < c.instant) :
    bucketKey c.clock r t ≤ bucketKey c.clock r (t + 1) := by
  have hsucc : t ≤ t + 1 := by omega
  rcases h with hsettles | hlt
  · obtain ⟨resume, joint, horderly, -⟩ := hsettles.exists_orderly hsmall
    exact horderly.bucketKey_mono hsucc
  · exact bucketKey_mono_of_lt hlt hsucc

/-- **The change itself and the second before it tell whether a change settles.** -/
theorem settles_of_instant (hle : bucketKey c.clock r c.instant ≤ c.instant)
    (hmono : bucketKey c.clock r (c.instant - 1) ≤ bucketKey c.clock r c.instant) :
    c.Settles r := by
  by_cases hwait : c.wait r = 0
  · exact Or.inl hwait
  · have hjoint : c.joint r = c.instant + c.wait r - r.size + c.shift := rfl
    rw [bucketKey_instant hwait] at hle hmono
    obtain ⟨-, -, hlt⟩ := seam_before (r := r) (show c.instant - 1 < c.instant by omega)
    exact Or.inr ⟨by omega, by omega⟩

end Change

/-! ## §3. Paced zones. -/

namespace Zone

variable {z : Zone} {r : Resolution} {lo hi t : Int}

/-- The instants of a stretch lie so far from the ends of the calendar that their buckets do. -/
theorem Paced.inside_of_stretch (h : z.Paced) (hlo : z.Inside pacedSpan pacedSpan lo)
    (hhi : z.Inside pacedSpan pacedSpan hi) (hlot : lo ≤ t) (hthi : t ≤ hi) :
    z.Inside 216000 10800 t := by
  have hspan : pacedSpan = 259200 := rfl
  exact (h.inside_of_between hlo hhi (by omega) (by omega) hlot hthi).mono (by omega) (by omega)

/-- Around an instant of a stretch on which every change settles, the buckets are those of a change
that settles or lies after the stretch. -/
theorem Paced.exists_settles (h : z.Paced)
    (hquiet : ∀ c ∈ z.changes, c.instant ≤ lo → c.instant + pacedSpan ≤ lo)
    (hsettles : ∀ c ∈ z.changes, lo < c.instant → c.instant ≤ hi → c.Settles r) (hlot : lo ≤ t) :
    ∃ c : Change, (c.Settles r ∨ hi < c.instant) ∧ c.Small ∧
      ∀ u, t - 97200 ≤ u → u ≤ t + 1 → z.Inside 97200 0 u →
        bucketKey z.clock r u = bucketKey c.clock r u := by
  have hspan : pacedSpan = 259200 := rfl
  obtain ⟨c, hc, hsmall, -, hkeys⟩ := h.exists_change t
  refine ⟨c, ?_, hsmall, hkeys r⟩
  rcases hc with ⟨hmem, hlt⟩ | hzero
  · by_cases hafter : hi < c.instant
    · exact Or.inr hafter
    · refine Or.inl (hsettles c hmem ?_ (by omega))
      -- A change before the stretch is three days back and no longer in sight.
      by_contra hbefore
      have hfar := hquiet c hmem (by omega)
      omega
  · exact Or.inl (Change.settles_of_shift_eq_zero hzero)

/-- **Where every change settles, the laws hold.** -/
theorem Paced.keyLaws_of_settles (h : z.Paced) (hlo : z.Inside pacedSpan pacedSpan lo)
    (hhi : z.Inside pacedSpan pacedSpan hi)
    (hquiet : ∀ c ∈ z.changes, c.instant ≤ lo → c.instant + pacedSpan ≤ lo)
    (hsettles : ∀ c ∈ z.changes, lo < c.instant → c.instant ≤ hi → c.Settles r) :
    KeyLaws z.clock r lo hi := by
  have hspan : pacedSpan = 259200 := rfl
  have hinside : ∀ u, lo ≤ u → u ≤ hi → z.Inside 97200 0 u := fun u hlou huhi =>
    (h.inside_of_stretch hlo hhi hlou huhi).mono (by omega) (by omega)
  refine KeyLaws.of_succ ?_ ?_ ?_
  · intro t hlot hthi
    obtain ⟨c, hc, hsmall, hkeys⟩ := h.exists_settles hquiet hsettles hlot
    rw [hkeys t (by omega) (by omega) (hinside t hlot hthi)]
    exact Change.bucketKey_le_self hsmall (hc.imp_right fun hlt => by omega)
  · intro t hlot hthi
    obtain ⟨c, hc, hsmall, hkeys⟩ := h.exists_settles hquiet hsettles hlot
    have hearlier : c.Settles r ∨ t < c.instant := hc.imp_right fun hlt => by omega
    have hnear := Change.bucketKey_near hsmall r t
    have hle := Change.bucketKey_le_self hsmall hearlier
    have hin : z.Inside 97200 0 (bucketKey c.clock r t) :=
      h.inside_of_near (h.inside_of_stretch hlo hhi hlot hthi) 97200 0 hnear.1 (by omega)
        (by omega) (Int.le_refl 0) ⟨by omega, by omega⟩ ⟨by omega, by omega⟩
    rw [hkeys t (by omega) (by omega) (hinside t hlot hthi), hkeys _ hnear.1 (by omega) hin]
    exact Change.bucketKey_bucketKey hsmall hearlier
  · intro t hlot hthi
    obtain ⟨c, hc, hsmall, hkeys⟩ := h.exists_settles hquiet hsettles hlot
    rw [hkeys t (by omega) (by omega) (hinside t hlot (by omega)),
      hkeys (t + 1) (by omega) (by omega) (hinside _ (by omega) (by omega))]
    exact Change.bucketKey_le_succ hsmall (hc.imp_right fun hlt => by omega)

/-- **Where the laws hold, every change settles.** -/
theorem Paced.settles_of_keyLaws (h : z.Paced) (hlo : z.Inside pacedSpan pacedSpan lo)
    (hhi : z.Inside pacedSpan pacedSpan hi) (hlaws : KeyLaws z.clock r lo hi) {c : Change}
    (hc : c ∈ z.changes) (hloc : lo < c.instant) (hchi : c.instant ≤ hi) : c.Settles r := by
  have hspan : pacedSpan = 259200 := rfl
  have hinside : ∀ u, lo ≤ u → u ≤ hi → z.Inside 97200 0 u := fun u hlou huhi =>
    (h.inside_of_stretch hlo hhi hlou huhi).mono (by omega) (by omega)
  have hkeys : ∀ u, c.instant - 1 ≤ u → u ≤ c.instant →
      bucketKey z.clock r u = bucketKey c.clock r u := fun u hlou huhi =>
    h.bucketKey_eq (h.small c hc) (h.tracks_of_mem hc) (by omega) (by omega)
      (hinside u (by omega) (by omega))
  have hle := hlaws.le c.instant (by omega) hchi
  have hmono := hlaws.mono (c.instant - 1) c.instant (by omega) (by omega) hchi
  rw [hkeys c.instant (by omega) (Int.le_refl _)] at hle hmono
  rw [hkeys (c.instant - 1) (Int.le_refl _) (by omega)] at hmono
  exact Change.settles_of_instant hle hmono

/-- **Buckets are intervals that begin at their keys where every change settles, and only there.**
On a stretch of time, far enough from the ends of the calendar, that no change lies just before, the
keys of a paced zone are not after their instants, are keys of themselves and come in order if and
only if every change on the stretch settles; and then a bucket is an interval from its key on. -/
theorem keyLaws_iff_settles (h : z.Paced) (hlo : z.Inside pacedSpan pacedSpan lo)
    (hhi : z.Inside pacedSpan pacedSpan hi)
    (hquiet : ∀ c ∈ z.changes, c.instant ≤ lo → c.instant + pacedSpan ≤ lo) :
    (KeyLaws z.clock r lo hi ↔
      ∀ c ∈ z.changes, lo < c.instant → c.instant ≤ hi → c.Settles r) ∧
    (KeyLaws z.clock r lo hi → ∀ t, lo ≤ bucketKey z.clock r t → lo ≤ t → t ≤ hi →
      IsLeast (bucket z.clock r lo hi (bucketKey z.clock r t)) (bucketKey z.clock r t) ∧
        ∀ u v w, u ∈ bucket z.clock r lo hi (bucketKey z.clock r t) →
          w ∈ bucket z.clock r lo hi (bucketKey z.clock r t) → u ≤ v → v ≤ w →
            v ∈ bucket z.clock r lo hi (bucketKey z.clock r t)) := by
  refine ⟨⟨?_, h.keyLaws_of_settles hlo hhi hquiet⟩, ?_⟩
  · intro hlaws c hc hloc hchi
    exact h.settles_of_keyLaws hlo hhi hlaws hc hloc hchi
  · intro hlaws t hkey hlot hthi
    refine ⟨hlaws.isLeast_bucket hkey hlot hthi, ?_⟩
    intro u v w hu hw huv hvw
    exact hlaws.mem_bucket_of_between hu hw huv hvw

/-- Lord Howe Island puts its clocks forward and back by half an hour.  From 2010 to 2019 its
hours are intervals that begin at their keys, although those around a change last for half an hour
or for an hour and a half. -/
theorem keyLaws_lordHowe_hours :
    Zone.lordHowe.Paced ∧ KeyLaws Zone.lordHowe.clock .hour 1270000000 1570400000 := by
  have hpaced : Zone.lordHowe.Paced := ⟨by decide +kernel, by decide +kernel⟩
  have hlo : Zone.lordHowe.Inside pacedSpan pacedSpan 1270000000 :=
    ⟨by decide +kernel, by decide +kernel, by decide +kernel, by decide +kernel⟩
  have hhi : Zone.lordHowe.Inside pacedSpan pacedSpan 1570400000 :=
    ⟨by decide +kernel, by decide +kernel, by decide +kernel, by decide +kernel⟩
  exact ⟨hpaced, (keyLaws_iff_settles hpaced hlo hhi (by decide +kernel)).1.2 (by decide +kernel)⟩

/-- **A minute that starts after its first second.**  When Monrovia put its clocks forward by
2670 seconds, the minute under way took the start of its local time by the old offset, which is
2640 seconds after the change; the key is not even its own. -/
theorem monrovia_minute_starts_late :
    Zone.monrovia.Paced ∧ 63593070 < bucketKey Zone.monrovia.clock .minute 63593070 ∧
      bucketKey Zone.monrovia.clock .minute 63593070 = 63595710 ∧
      bucketKey Zone.monrovia.clock .minute 63595710 = 63595680 := by
  exact ⟨⟨by decide +kernel, by decide +kernel⟩, by decide +kernel, by decide +kernel,
    by decide +kernel⟩

end Zone
end MetricQuery
