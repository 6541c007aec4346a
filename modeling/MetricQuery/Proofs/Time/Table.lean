/-
  MetricQuery.Proofs.Time.Table
  ─────────────────────────────
  **WHAT A TABLE OF OFFSETS SAYS ABOUT A LOCAL TIME.**

  An offset is among those under which a local time is shown if and only if it
  is in effect at the instant to which it takes the local time.  Where a table
  changes at most once within some days, its look-ups are those of the clock
  that knows of that one change.

    • `mem_candidates_iff`     — the offsets under which a local time is shown,
    • `Zone.changes`           — the changes of a table,
    • `Zone.Calm`              — changes that are small, rare and far from the ends of time,
    • `localOffset_of_shows`   — the offset chosen where one change alone matters,
    • `Change.Governs`         — look-ups as if there were no other change,
    • `Follows.governs`        — a table with one change in some days has such look-ups,
    • `Calm.exists_follows`    — around every instant a calm zone has at most one.
-/
import MetricQuery.Proofs.Time.Change

namespace MetricQuery

namespace Zone

/-! ## §1. Offsets of a local time. -/

/-- In a table that starts at `start`, an offset shows a local time if and only if it is in effect
at the instant to which it takes the local time. -/
theorem mem_candidatesFrom_iff {start : Option Int} {o p x : Int} {transitions : List Transition}
    (hstart : ∀ b, start = some b → ∀ tr ∈ transitions, b ≤ tr.instant)
    (hasc : transitions.Pairwise fun a b => a.instant < b.instant) :
    p ∈ candidatesFrom start o transitions x ↔
      startsBy start (x - p) = true ∧ offsetFrom o transitions (x - p) = p := by
  induction transitions generalizing start o with
  | nil =>
      unfold candidatesFrom offsetFrom
      by_cases h : startsBy start (x - o) = true
      · rw [if_pos h, List.mem_singleton]
        constructor
        · rintro rfl
          exact ⟨h, rfl⟩
        · rintro ⟨-, rfl⟩
          rfl
      · rw [if_neg h]
        constructor
        · intro hp
          cases hp
        · rintro ⟨hp, rfl⟩
          exact absurd hp h
  | cons tr rest ih =>
      obtain ⟨hfirst, hrest⟩ := List.pairwise_cons.1 hasc
      have hlater : p ∈ candidatesFrom (some tr.instant) tr.offset rest x ↔
          tr.instant ≤ x - p ∧ offsetFrom tr.offset rest (x - p) = p := by
        rw [ih _ hrest]
        · simp [startsBy]
        · intro b hb tr' htr'
          cases hb
          exact Int.le_of_lt (hfirst tr' htr')
      -- The spans after the first one start when they should.
      have hby : tr.instant ≤ x - p → startsBy start (x - p) = true := by
        intro hle
        cases hs : start with
        | none => rfl
        | some b =>
            have hb := hstart b hs tr List.mem_cons_self
            simp only [startsBy, decide_eq_true_eq]
            omega
      unfold candidatesFrom offsetFrom
      by_cases h : (startsBy start (x - o) && decide (x - o < tr.instant)) = true
      · rw [if_pos h, List.mem_cons, hlater]
        rw [Bool.and_eq_true, decide_eq_true_eq] at h
        constructor
        · rintro (rfl | ⟨hle, hp⟩)
          · exact ⟨h.1, if_pos h.2⟩
          · exact ⟨hby hle, by rw [if_neg (by omega), hp]⟩
        · rintro ⟨hp, heq⟩
          split at heq
          · exact Or.inl heq.symm
          · exact Or.inr ⟨by omega, heq⟩
      · rw [if_neg h, hlater]
        rw [Bool.and_eq_true, decide_eq_true_eq] at h
        constructor
        · rintro ⟨hle, hp⟩
          exact ⟨hby hle, by rw [if_neg (by omega), hp]⟩
        · rintro ⟨hp, heq⟩
          split at heq
          · rename_i hlt
            subst heq
            exact absurd ⟨hp, hlt⟩ h
          · exact ⟨by omega, heq⟩

/-- **An offset shows a local time** if and only if it is in effect at the instant to which it
takes the local time. -/
theorem mem_candidates_iff {z : Zone} {p x : Int} :
    p ∈ z.candidates x ↔ offsetFrom z.initial z.transitions (x - p) = p := by
  unfold candidates
  rw [mem_candidatesFrom_iff _ z.ascending]
  · simp [startsBy]
  · intro b hb
    cases hb

/-- What holds of every offset of a table holds of the one in effect. -/
theorem offsetFrom_induction {P : Int → Prop} {o : Int} {transitions : List Transition}
    (hinitial : P o) (htransitions : ∀ tr ∈ transitions, P tr.offset) (t : Int) :
    P (offsetFrom o transitions t) := by
  induction transitions generalizing o with
  | nil => exact hinitial
  | cons tr rest ih =>
      unfold offsetFrom
      split
      · exact hinitial
      · exact ih (htransitions tr List.mem_cons_self) fun tr' h =>
          htransitions tr' (List.mem_cons_of_mem tr h)

/-! ## §2. Changes. -/

/-- The changes of a table that starts with `o`. -/
def changesFrom (o : Int) : List Transition → List Change
  | [] => []
  | tr :: rest => ⟨tr.instant, o, tr.offset⟩ :: changesFrom tr.offset rest

/-- The changes of a zone. -/
def changes (z : Zone) : List Change :=
  changesFrom z.initial z.transitions

/-- A change of a table is one of its transitions. -/
theorem exists_of_mem_changesFrom {o : Int} {transitions : List Transition} {c : Change}
    (h : c ∈ changesFrom o transitions) :
    (c.before = o ∨ ∃ tr ∈ transitions, c.before = tr.offset) ∧
      ∃ tr ∈ transitions, c.instant = tr.instant ∧ c.after = tr.offset := by
  induction transitions generalizing o with
  | nil => cases h
  | cons tr rest ih =>
      unfold changesFrom at h
      rcases List.mem_cons.1 h with rfl | h
      · exact ⟨Or.inl rfl, tr, List.mem_cons_self, rfl, rfl⟩
      · obtain ⟨hbefore, tr', htr', hafter⟩ := ih h
        refine ⟨Or.inr ?_, tr', List.mem_cons_of_mem tr htr', hafter⟩
        rcases hbefore with heq | ⟨tr'', htr'', heq⟩
        · exact ⟨tr, List.mem_cons_self, heq⟩
        · exact ⟨tr'', List.mem_cons_of_mem tr htr'', heq⟩

/-- How far apart the changes of a calm zone are: sixteen days. -/
def calmSpan : Int := 1382400

/-- A zone whose clocks are changed rarely, by three hours at most, and to offsets of less than a
day. -/
structure Calm (z : Zone) : Prop where
  initial : -86400 < z.initial ∧ z.initial < 86400
  offsets : ∀ tr ∈ z.transitions, -86400 < tr.offset ∧ tr.offset < 86400
  small : ∀ c ∈ z.changes, c.Small
  apart : z.transitions.Pairwise fun a b => a.instant + calmSpan ≤ b.instant

/-! ## §3. One change at a time. -/

theorem offsetFrom_of_lt {o t : Int} {transitions : List Transition}
    (h : ∀ tr ∈ transitions, t < tr.instant) : offsetFrom o transitions t = o := by
  cases transitions with
  | nil => rfl
  | cons tr rest => exact if_pos (h tr List.mem_cons_self)

/-- Around a change of a table whose changes are rare, no other is in effect. -/
theorem offsetFrom_of_mem_changesFrom {span o : Int} {transitions : List Transition} {c : Change}
    (hapart : transitions.Pairwise fun a b => a.instant + span ≤ b.instant)
    (hc : c ∈ changesFrom o transitions) {t : Int} (hlo : c.instant - span ≤ t)
    (hhi : t < c.instant + span) : offsetFrom o transitions t = c.clock.offsetAt t := by
  induction transitions generalizing o with
  | nil => cases hc
  | cons tr rest ih =>
      obtain ⟨hfirst, hrest⟩ := List.pairwise_cons.1 hapart
      unfold changesFrom at hc
      unfold offsetFrom
      rcases List.mem_cons.1 hc with rfl | hc
      · -- The next change is too far away to be in effect.
        have hlast : offsetFrom tr.offset rest t = tr.offset := by
          refine offsetFrom_of_lt ?_
          intro tr' htr'
          have hle := hfirst tr' htr'
          simp only at hhi
          omega
        rw [hlast]
        rfl
      · obtain ⟨-, tr', htr', heq, -⟩ := exists_of_mem_changesFrom hc
        have hle := hfirst tr' htr'
        rw [if_neg (by omega)]
        exact ih hrest hc

/-- A table whose changes are rare has at most one of them in a stretch that is not too long. -/
theorem exists_changeFrom {span o : Int} {transitions : List Transition} (hpos : 0 < span)
    (hapart : transitions.Pairwise fun a b => a.instant + span ≤ b.instant) (lo : Int) :
    ∃ c : Change, ((c ∈ changesFrom o transitions ∧ lo < c.instant ∧ c.instant < lo + span) ∨
        c = ⟨lo, offsetFrom o transitions lo, offsetFrom o transitions lo⟩) ∧
      ∀ t, lo ≤ t → t < lo + span → offsetFrom o transitions t = c.clock.offsetAt t := by
  induction transitions generalizing o with
  | nil =>
      refine ⟨_, Or.inr rfl, ?_⟩
      intro t _ _
      show o = if t < lo then o else o
      split <;> rfl
  | cons tr rest ih =>
      obtain ⟨hfirst, hrest⟩ := List.pairwise_cons.1 hapart
      by_cases hafter : lo + span ≤ tr.instant
      · -- The stretch is over before the first change.
        have hbefore : ∀ t, t < lo + span → offsetFrom o (tr :: rest) t = o :=
          fun t ht => if_pos (by omega)
        refine ⟨_, Or.inr rfl, ?_⟩
        intro t hlo hhi
        rw [hbefore t hhi, hbefore lo (by omega)]
        show o = if t < lo then o else o
        split <;> rfl
      · by_cases hbefore : tr.instant ≤ lo
        · -- The first change lies before the stretch.
          have hskip : ∀ t, lo ≤ t →
              offsetFrom o (tr :: rest) t = offsetFrom tr.offset rest t :=
            fun t ht => if_neg (by omega)
          obtain ⟨c, hc, hlocal⟩ := ih hrest (o := tr.offset)
          refine ⟨c, ?_, ?_⟩
          · rw [hskip lo (Int.le_refl lo)]
            rcases hc with ⟨hc, hinside⟩ | hc
            · exact Or.inl ⟨List.mem_cons_of_mem _ hc, hinside⟩
            · exact Or.inr hc
          · intro t hlo hhi
            rw [hskip t hlo]
            exact hlocal t hlo hhi
        · refine ⟨⟨tr.instant, o, tr.offset⟩, Or.inl ⟨List.mem_cons_self, ?_⟩, ?_⟩
          · simp only
            omega
          intro t hlo hhi
          exact offsetFrom_of_mem_changesFrom hapart List.mem_cons_self (by simp only; omega)
            (by simp only; omega)

/-! ## §4. The offset chosen for a local time. -/

variable {z : Zone} {c : Change}

/-- The largest of the offsets that show a local time. -/
theorem foldl_max_eq {o v : Int} {os : List Int} (hmem : v ∈ o :: os)
    (hle : ∀ p ∈ o :: os, p ≤ v) : os.foldl max o = v := by
  have hmax : (o :: os).max? = some v := List.max?_eq_some_iff.2 ⟨hmem, hle⟩
  rw [List.max?_cons'] at hmax
  exact Option.some.inj hmax

/-- A preferred offset is chosen if it shows the local time. -/
theorem localOffset_of_mem_candidates {x p : Int} (h : p ∈ z.candidates x) :
    z.localOffset x (some p) = p := by
  unfold localOffset
  split
  · cases hcandidates : z.candidates x with
    | nil =>
        rw [hcandidates] at h
        cases h
    | cons o os =>
        rw [hcandidates] at h
        exact if_pos h
  · rfl

/-- What is chosen among the offsets that show a local time. -/
theorem localOffset_of_candidates {x v o : Int} {preferred : Option Int} {os : List Int}
    (hcalendar : inCalendar x = true) (hcandidates : z.candidates x = o :: os)
    (hpreferred : ∀ p, preferred = some p → p ∈ o :: os → p = v)
    (hmax : preferred ≠ some v → os.foldl max o = v) (hmem : v ∈ o :: os) :
    z.localOffset x preferred = v := by
  unfold localOffset
  rw [if_pos hcalendar, hcandidates]
  cases preferred with
  | none => exact hmax (by simp)
  | some p =>
      show (if p ∈ o :: os then p else os.foldl max o) = v
      by_cases hp : p ∈ o :: os
      · rw [if_pos hp]
        exact hpreferred p rfl hp
      · rw [if_neg hp]
        refine hmax ?_
        intro heq
        cases heq
        exact hp hmem

/-- Before a gap the offset before the change is found, if local times are shown as by that change
alone. -/
theorem offsetBeforeGap_of_shows (hsmall : c.Small) {x : Int}
    (hback : inCalendar (x - 10800) = true)
    (hshows : ∀ y p, x - 10800 ≤ y → y ≤ x → (p ∈ z.candidates y ↔ c.Shows y p))
    (hgap : x - c.after < c.instant) : z.offsetBeforeGap x = some c.before := by
  obtain ⟨hlow, hhigh⟩ := hsmall
  simp only [Change.shift] at hlow hhigh
  -- Going back minute by minute, an offset that shows the time is the one before the change.
  have hearlier : ∀ (m : Nat) (p : Int), m < gapSearchMinutes →
      p ∈ z.candidates (x - 60 * (m + 1 : Nat)) → p = c.before := by
    intro m p hm hp
    have hm' : m < 180 := hm
    rcases (hshows _ p (by omega) (by omega)).1 hp with ⟨-, heq⟩ | ⟨hle, -⟩
    · exact heq
    · omega
  unfold offsetBeforeGap
  cases hfound : (List.range gapSearchMinutes).findSome? fun m =>
      if inCalendar (x - 60 * (m + 1 : Nat)) then (z.candidates (x - 60 * (m + 1 : Nat))).min?
      else none with
  | none =>
      -- Three hours back the time is before the gap.
      have hnone := List.findSome?_eq_none_iff.1 hfound 179 (by decide)
      have hmem : c.before ∈ z.candidates (x - 60 * (179 + 1 : Nat)) :=
        (hshows _ _ (by omega) (by omega)).2 (Or.inl ⟨by omega, rfl⟩)
      rw [if_pos (show inCalendar (x - 60 * (179 + 1 : Nat)) = true from hback),
        List.min?_eq_none_iff] at hnone
      rw [hnone] at hmem
      cases hmem
  | some p =>
      obtain ⟨m, hm, hp⟩ := List.exists_of_findSome?_eq_some hfound
      rw [List.mem_range] at hm
      split at hp
      · rw [hearlier m p hm (List.min?_mem hp)]
      · cases hp

/-- **The offset chosen for a local time** is the one that a change alone would give it, if the
local times of the three hours up to it are shown as by that change alone. -/
theorem localOffset_of_shows (hsmall : c.Small) {x : Int} (hcalendar : inCalendar x = true)
    (hback : inCalendar (x - 10800) = true)
    (hshows : ∀ y p, x - 10800 ≤ y → y ≤ x → (p ∈ z.candidates y ↔ c.Shows y p))
    (preferred : Option Int) : z.localOffset x preferred = c.clock.localOffset x preferred := by
  have hmem : ∀ p, p ∈ z.candidates x ↔ c.Shows x p :=
    fun p => hshows x p (by omega) (Int.le_refl x)
  cases hcandidates : z.candidates x with
  | nil =>
      -- Never shown: the local time lies in the gap that the change leaves.
      rw [hcandidates] at hmem
      have hgap : x - c.after < c.instant := by
        by_contra hle
        cases (hmem c.after).2 (Or.inr ⟨by omega, rfl⟩)
      rw [Change.localOffset_of_gap preferred hgap]
      unfold localOffset
      rw [if_pos hcalendar, hcandidates]
      show ((z.offsetBeforeGap x).or preferred).getD (z.offsetAt x) = c.before
      rw [offsetBeforeGap_of_shows hsmall hback hshows hgap]
      rfl
  | cons o os =>
      rw [hcandidates] at hmem
      by_cases hafter : c.instant ≤ x - c.after
      · have hafterMem := (hmem c.after).2 (Or.inr ⟨hafter, rfl⟩)
        by_cases hbefore : x - c.before < c.instant
        · -- Shown twice: the offset before the change is the larger of the two.
          have hbeforeMem := (hmem c.before).2 (Or.inl ⟨hbefore, rfl⟩)
          by_cases hpref : preferred = some c.after
          · rw [Change.localOffset_of_after hafter (Or.inr hpref)]
            refine localOffset_of_candidates hcalendar hcandidates ?_ (fun hn => absurd hpref hn)
              hafterMem
            intro p hp _
            rw [hpref] at hp
            exact (Option.some.inj hp).symm
          · rw [Change.localOffset_of_before hbefore fun heq => absurd heq hpref]
            refine localOffset_of_candidates hcalendar hcandidates ?_ (fun _ => ?_) hbeforeMem
            · intro p hp hpmem
              rcases (hmem p).1 hpmem with ⟨-, heq⟩ | ⟨-, heq⟩
              · exact heq
              · subst heq
                exact absurd hp hpref
            · refine foldl_max_eq hbeforeMem ?_
              intro p hpmem
              rcases (hmem p).1 hpmem with ⟨-, heq⟩ | ⟨-, heq⟩
              · omega
              · omega
        · -- Shown after the change only.
          rw [Change.localOffset_of_after hafter (Or.inl (by omega))]
          have honly : ∀ p ∈ o :: os, p = c.after := by
            intro p hpmem
            rcases (hmem p).1 hpmem with ⟨hlt, -⟩ | ⟨-, heq⟩
            · exact absurd hlt hbefore
            · exact heq
          refine localOffset_of_candidates hcalendar hcandidates (fun p _ hp => honly p hp)
            (fun _ => ?_) hafterMem
          exact foldl_max_eq hafterMem fun p hp => Int.le_of_eq (honly p hp)
      · -- Shown before the change only.
        rw [Change.localOffset_of_gap preferred (by omega)]
        have honly : ∀ p ∈ o :: os, p = c.before := by
          intro p hpmem
          rcases (hmem p).1 hpmem with ⟨-, heq⟩ | ⟨hle, -⟩
          · exact heq
          · exact absurd hle hafter
        have hbeforeMem : c.before ∈ o :: os := by
          have hhead := honly o List.mem_cons_self
          rw [hhead]
          exact List.mem_cons_self
        refine localOffset_of_candidates hcalendar hcandidates (fun p _ hp => honly p hp)
          (fun _ => ?_) hbeforeMem
        exact foldl_max_eq hbeforeMem fun p hp => Int.le_of_eq (honly p hp)

/-! ## §5. Clocks that follow one change. -/

end Zone

/-- Between `lo` and `hi` the look-ups of the clock are those of the clock that knows of this change
only. -/
structure Change.Governs (c : Change) (clock : Clock) (lo hi : Int) : Prop where
  offsetAt : ∀ t, lo ≤ t → t < hi → clock.offsetAt t = c.clock.offsetAt t
  localOffset : ∀ x preferred, lo ≤ x - c.before → x - c.before < hi → lo ≤ x - c.after →
    x - c.after < hi → clock.localOffset x preferred = c.clock.localOffset x preferred

namespace Zone

/-- In these days the zone follows the change. -/
structure Follows (z : Zone) (c : Change) (lo hi : Int) : Prop where
  calendar : calendarFirst ≤ lo ∧ hi ≤ calendarLast
  small : c.Small
  before : -86400 < c.before ∧ c.before < 86400
  after : -86400 < c.after ∧ c.after < 86400
  offsets : ∀ p x, p ∈ z.candidates x → -86400 < p ∧ p < 86400
  offsetFrom : ∀ t, lo ≤ t → t < hi → offsetFrom z.initial z.transitions t = c.clock.offsetAt t

variable {z : Zone} {c : Change} {lo hi : Int}

/-- The offsets that show a local time are those of the change. -/
theorem Follows.mem_candidates_iff (h : z.Follows c lo hi) {x p : Int} (hlo : lo + 86400 ≤ x)
    (hhi : x + 86400 ≤ hi) : p ∈ z.candidates x ↔ c.Shows x p := by
  have heffect : ∀ q, -86400 < q → q < 86400 →
      (q ∈ z.candidates x ↔ c.clock.offsetAt (x - q) = q) := by
    intro q hq hq'
    rw [Zone.mem_candidates_iff, h.offsetFrom (x - q) (by omega) (by omega)]
  constructor
  · intro hp
    obtain ⟨hq, hq'⟩ := h.offsets p x hp
    have heq := (heffect p hq hq').1 hp
    have hoffset : (if x - p < c.instant then c.before else c.after) = p := heq
    split at hoffset
    · subst hoffset
      exact Or.inl ⟨by omega, rfl⟩
    · subst hoffset
      exact Or.inr ⟨by omega, rfl⟩
  · rintro (⟨hlt, rfl⟩ | ⟨hle, rfl⟩)
    · exact (heffect _ h.before.1 h.before.2).2 (if_pos hlt)
    · exact (heffect _ h.after.1 h.after.2).2 (if_neg (by omega))

/-- **The offset chosen for a local time** is the one that the change alone would give it. -/
theorem Follows.localOffset_eq (h : z.Follows c lo hi) {x : Int} (hlo : lo + 97200 ≤ x)
    (hhi : x + 86400 ≤ hi) (preferred : Option Int) :
    z.localOffset x preferred = c.clock.localOffset x preferred := by
  obtain ⟨hfirst, hlast⟩ := h.calendar
  have hcalendar : ∀ y, x - 10800 ≤ y → y ≤ x → inCalendar y = true := by
    intro y hle hge
    rw [inCalendar_iff]
    omega
  refine localOffset_of_shows h.small (hcalendar x (by omega) (Int.le_refl x))
    (hcalendar _ (Int.le_refl _) (by omega)) ?_ preferred
  intro y p hle hge
  exact h.mem_candidates_iff (by omega) (by omega)

/-- **A zone that follows a change is governed by it,** a few days away from the ends. -/
theorem Follows.governs (h : z.Follows c lo hi) :
    c.Governs z.clock (lo + 183600) (hi - 172800) where
  offsetAt t hlo hhi := by
    obtain ⟨hfirst, hlast⟩ := h.calendar
    have hcalendar : inCalendar t = true := by
      rw [inCalendar_iff]
      omega
    show z.offsetAt t = _
    unfold offsetAt
    rw [if_pos hcalendar]
    exact h.offsetFrom t (by omega) (by omega)
  localOffset x preferred hlo hhi _ _ := by
    obtain ⟨hlow, hhigh⟩ := h.before
    exact h.localOffset_eq (by omega) (by omega) preferred

/-! ## §6. Calm zones. -/

/-- How far around an instant a calm zone follows one change: eight days. -/
def calmReach : Int := 691200

/-- No change of the zone is close to the instant. -/
def Quiet (z : Zone) (t : Int) : Prop :=
  ∀ c ∈ z.changes, c.instant + calmReach ≤ t ∨ t + calmReach ≤ c.instant

instance (z : Zone) (t : Int) : Decidable (z.Quiet t) := by
  unfold Quiet
  infer_instance

theorem Calm.candidates_lt (h : z.Calm) {p x : Int} (hp : p ∈ z.candidates x) :
    -86400 < p ∧ p < 86400 := by
  have heq := Zone.mem_candidates_iff.1 hp
  have hbound := offsetFrom_induction (P := fun p => -86400 < p ∧ p < 86400) h.initial h.offsets
    (x - p)
  rwa [heq] at hbound

theorem Calm.offset_lt_of_mem (h : z.Calm) (hc : c ∈ z.changes) :
    (-86400 < c.before ∧ c.before < 86400) ∧ -86400 < c.after ∧ c.after < 86400 := by
  obtain ⟨hbefore, tr, htr, -, hafter⟩ := exists_of_mem_changesFrom hc
  rw [hafter]
  refine ⟨?_, h.offsets tr htr⟩
  rcases hbefore with heq | ⟨tr', htr', heq⟩
  · rw [heq]
    exact h.initial
  · rw [heq]
    exact h.offsets tr' htr'

/-- A calm zone follows each of its changes for some days. -/
theorem Calm.follows_of_mem (h : z.Calm) (hc : c ∈ z.changes) {t : Int}
    (hlo : c.instant - calmReach ≤ t) (hhi : t ≤ c.instant + calmReach)
    (hfirst : calendarFirst + calmReach ≤ t) (hlast : t ≤ calendarLast - calmReach) :
    z.Follows c (t - calmReach) (t + calmReach) := by
  obtain ⟨hbefore, hafter⟩ := h.offset_lt_of_mem hc
  have hspan : calmReach + calmReach = calmSpan := by decide
  refine ⟨by omega, h.small c hc, hbefore, hafter, fun p x hp => h.candidates_lt hp, ?_⟩
  intro u hu hu'
  exact offsetFrom_of_mem_changesFrom h.apart hc (by omega) (by omega)

/-- **Around every instant a calm zone follows one change,** be it a change of nothing. -/
theorem Calm.exists_follows (h : z.Calm) {t : Int} (hfirst : calendarFirst + calmReach ≤ t)
    (hlast : t ≤ calendarLast - calmReach) :
    ∃ c : Change, ((c ∈ z.changes ∧ t - calmReach < c.instant ∧ c.instant < t + calmReach) ∨
        c.shift = 0) ∧
      z.Follows c (t - calmReach) (t + calmReach) := by
  have hpos : 0 < calmSpan := by decide
  obtain ⟨c, hc, hlocal⟩ := exists_changeFrom (o := z.initial) hpos h.apart (t - calmReach)
  have hspan : calmReach + calmReach = calmSpan := by decide
  refine ⟨c, ?_⟩
  have hoffset := offsetFrom_induction (P := fun p => -86400 < p ∧ p < 86400) h.initial h.offsets
    (t - calmReach)
  rcases hc with ⟨hc, hinside⟩ | rfl
  · exact ⟨Or.inl ⟨hc, by omega⟩, h.follows_of_mem hc (by omega) (by omega) hfirst hlast⟩
  · have hzero : ∀ p : Int, p - p = 0 := fun p => by omega
    refine ⟨Or.inr (hzero _), by omega, ?_, hoffset, hoffset, fun p x hp => h.candidates_lt hp, ?_⟩
    · simp only [Change.Small, Change.shift]
      omega
    · intro u hu hu'
      exact hlocal u hu (by omega)

theorem Calm.offsetAt_lt (h : z.Calm) (t : Int) : -86400 < z.offsetAt t ∧ z.offsetAt t < 86400 := by
  unfold offsetAt
  split
  · exact offsetFrom_induction (P := fun p => -86400 < p ∧ p < 86400) h.initial h.offsets t
  · omega

/-- The offset before a gap is one of those that show some local time. -/
theorem exists_of_offsetBeforeGap {x p : Int} (h : z.offsetBeforeGap x = some p) :
    ∃ y, p ∈ z.candidates y := by
  obtain ⟨m, -, hp⟩ := List.exists_of_findSome?_eq_some h
  simp only at hp
  split at hp
  · exact ⟨_, List.min?_mem hp⟩
  · cases hp

/-- **What holds of every offset of a table,** of the preferred one and, outside of the calendar, of
zero holds of the offset that is chosen for a local time. -/
theorem localOffset_induction {P : Int → Prop} {x : Int} {preferred : Option Int}
    (hoffsets : ∀ t, P (offsetFrom z.initial z.transitions t))
    (hpreferred : ∀ p, preferred = some p → P p) (hout : inCalendar x = false → P 0) :
    P (z.localOffset x preferred) := by
  have hcandidate : ∀ p y, p ∈ z.candidates y → P p := by
    intro p y hp
    rw [← Zone.mem_candidates_iff.1 hp]
    exact hoffsets _
  have hat : P (z.offsetAt x) := by
    unfold offsetAt
    split
    · exact hoffsets x
    · exact hout (Bool.eq_false_iff.2 ‹_›)
  unfold localOffset
  split
  · cases hcandidates : z.candidates x with
    | nil =>
        -- Never shown: the offset before the gap, or what is left if none is found.
        show P (((z.offsetBeforeGap x).or preferred).getD (z.offsetAt x))
        cases hgap : z.offsetBeforeGap x with
        | some p =>
            obtain ⟨y, hp⟩ := exists_of_offsetBeforeGap hgap
            exact hcandidate p y hp
        | none =>
            cases preferred with
            | some p => exact hpreferred p rfl
            | none => exact hat
    | cons o os =>
        have hlargest : (o :: os).max? = some (os.foldl max o) := List.max?_cons'
        have hmax : P (os.foldl max o) :=
          hcandidate _ x (hcandidates ▸ List.max?_mem hlargest)
        cases preferred with
        | none => exact hmax
        | some p =>
            show P (if p ∈ o :: os then p else os.foldl max o)
            split
            · exact hpreferred p rfl
            · exact hmax
  · cases preferred with
    | some p => exact hpreferred p rfl
    | none => exact hat

/-- **A calm zone chooses offsets of less than a day.** -/
theorem Calm.localOffset_lt (h : z.Calm) (x : Int) {preferred : Option Int}
    (hpreferred : ∀ p, preferred = some p → -86400 < p ∧ p < 86400) :
    -86400 < z.localOffset x preferred ∧ z.localOffset x preferred < 86400 := by
  have hoffsets := offsetFrom_induction (P := fun p => -86400 < p ∧ p < 86400) h.initial h.offsets
  exact localOffset_induction (P := fun p => -86400 < p ∧ p < 86400) hoffsets hpreferred
    fun _ => by omega

end Zone
end MetricQuery
