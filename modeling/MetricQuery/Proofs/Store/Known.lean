/-
  MetricQuery.Proofs.Store.Known
  ──────────────────────────────
  **THE ENTITIES A STORE KNOWS, AND THOSE IT HOLDS A DAY OF.**

  A write makes its entity known to the store before it looks at what there is
  to be written.  A batch without points therefore leaves an entity behind that
  has no day, and the count of entities counts it.

    • `SampleStore.Stored`   — some query for the entity returns a day,
    • `Write.stores`         — the write brings a sample with it,
    • `ofWrites_iff_exists`  — what single writes bring about and no other undoes,
    • `known_ofWrites`       — an entity is known once a write has named it,
    • `stored_ofWrites`      — it has a day once a write has brought it a sample,
    • `entityCount_ofWrites` — **what the count counts, and when that is the stored entities.**
-/
import Mathlib.Data.Set.Card
import MetricQuery.Proofs.Store.Writes

namespace MetricQuery

variable {α : Type}

/-! ## §1. Known entities and stored ones. -/

/-- The entity has an entry of its own. -/
def SampleStore.Known (s : SampleStore α) (e : Entity) : Prop :=
  e ∈ s.entries

/-- The entity has at least one stored day: a query for it returns one, if its range is wide
enough. -/
def SampleStore.Stored (s : SampleStore α) (e : Entity) : Prop :=
  ∃ first last, s.query e first last ≠ []

/-- The write brings at least one sample with it. -/
def Write.stores : Write α → Bool
  | .value _ _ _ => true
  | .missing _ _ => true
  | .batch _ points => !points.isEmpty

/-- The count of entities is that of the known ones. -/
theorem SampleStore.entityCount_eq_encard (s : SampleStore α) :
    (s.entityCount : ℕ∞) = {e | s.Known e}.encard := by
  have hkeys : {e | s.Known e} = (s.entries.keys.toFinset : Set Entity) := by
    ext e
    rw [Finset.mem_coe, List.mem_toFinset, Std.ExtTreeMap.mem_keys]
    rfl
  rw [hkeys, Set.encard_coe_eq_coe_finsetCard,
    List.toFinset_card_of_nodup Std.ExtTreeMap.nodup_keys, Std.ExtTreeMap.length_keys]
  rfl

/-- An entity is stored if and only if there is a day among its days. -/
theorem SampleStore.stored_iff {s : SampleStore α} {e : Entity} :
    s.Stored e ↔ ∃ day, day ∈ s.days e := by
  constructor
  · rintro ⟨first, last, h⟩
    obtain ⟨b, hb⟩ := List.exists_mem_of_ne_nil _ h
    obtain ⟨hday, -⟩ := mem_query_iff.1 hb
    exact ⟨b.day, Std.ExtTreeMap.mem_iff_isSome_getElem?.2 (by rw [hday]; rfl)⟩
  · rintro ⟨day, h⟩
    rw [Std.ExtTreeMap.mem_iff_isSome_getElem?, Option.isSome_iff_exists] at h
    obtain ⟨samples, hday⟩ := h
    refine ⟨day, day, List.ne_nil_of_mem (a := ⟨day, samples⟩) ?_⟩
    exact mem_query_iff.2 ⟨hday, Int.le_refl day, Int.le_refl day⟩

/-! ## §2. One write. -/

theorem SampleStore.known_update (s : SampleStore α) (e f : Entity) (count : Nat)
    (change : EntityDays α → EntityDays α) :
    (s.update e count change).Known f ↔ e = f ∨ s.Known f := by
  rw [SampleStore.Known, SampleStore.update, Std.ExtTreeMap.mem_alter]
  by_cases h : e = f
  · simp [h]
  · simp [h, SampleStore.Known]

/-- **A write makes its own entity known,** whatever it writes, and no other one. -/
theorem SampleStore.known_apply (s : SampleStore α) (w : Write α) (e : Entity) :
    (s.apply w).Known e ↔ w.entity = e ∨ s.Known e := by
  cases w with
  | value f t v => exact s.known_update f e 1 _
  | missing f t => exact s.known_update f e 1 _
  | batch f points => exact s.known_update f e points.length _

/-- A sample keeps the days that there are and has one of its own. -/
theorem EntityDays.mem_put {days : EntityDays α} {t day : Int} {v : Option α} :
    day ∈ days.put t v ↔ dayFloor t = day ∨ day ∈ days := by
  rw [EntityDays.put, Std.ExtTreeMap.mem_alter]
  by_cases h : dayFloor t = day
  · simp [h]
  · simp [h]

theorem EntityDays.exists_mem_put (days : EntityDays α) (t : Int) (v : Option α) :
    ∃ day, day ∈ days.put t v :=
  ⟨dayFloor t, EntityDays.mem_put.2 (Or.inl rfl)⟩

/-- Points leave a day behind, if there are any or there was a day before. -/
theorem EntityDays.exists_mem_putAll {days : EntityDays α} {points : List (Int × α)} :
    (∃ day, day ∈ days.putAll points) ↔ points ≠ [] ∨ ∃ day, day ∈ days := by
  induction points generalizing days with
  | nil => simp [EntityDays.putAll]
  | cons p points ih =>
      -- The first point leaves a day behind, whatever comes after it.
      have hstep : days.putAll (p :: points) = EntityDays.putAll (days.put p.1 (some p.2)) points :=
        rfl
      rw [hstep, ih]
      exact iff_of_true (Or.inr (days.exists_mem_put p.1 (some p.2)))
        (Or.inl (List.cons_ne_nil p points))

/-- A change leaves its entity with a day if it brings one or there was one before. -/
theorem SampleStore.stored_update (s : SampleStore α) (e f : Entity) (count : Nat)
    {change : EntityDays α → EntityDays α} {brings : Prop}
    (hchange : ∀ days : EntityDays α,
      (∃ day, day ∈ change days) ↔ brings ∨ ∃ day, day ∈ days) :
    (s.update e count change).Stored f ↔ (e = f ∧ brings) ∨ s.Stored f := by
  rw [SampleStore.stored_iff, SampleStore.stored_iff, SampleStore.days_update]
  by_cases h : e = f
  · rw [if_pos h, hchange, h]
    simp
  · rw [if_neg h]
    simp [h]

/-- **A write gives its own entity a day if it brings a sample,** and no other one. -/
theorem SampleStore.stored_apply (s : SampleStore α) (w : Write α) (e : Entity) :
    (s.apply w).Stored e ↔ (w.entity = e ∧ w.stores = true) ∨ s.Stored e := by
  cases w with
  | value f t v =>
      exact s.stored_update f e 1 fun days =>
        iff_of_true (days.exists_mem_put t (some v)) (Or.inl rfl)
  | missing f t =>
      exact s.stored_update f e 1 fun days =>
        iff_of_true (days.exists_mem_put t none) (Or.inl rfl)
  | batch f points =>
      have hbrings : (Write.batch f points).stores = true ↔ points ≠ [] := by
        simp [Write.stores]
      rw [hbrings]
      exact s.stored_update f e points.length fun days => EntityDays.exists_mem_putAll

/-! ## §3. All writes. -/

/-- **What single writes bring about and no other undoes** holds after some writes if and only if
one of them brought it about. -/
theorem ofWrites_iff_exists {P : SampleStore α → Prop} {Q : Write α → Prop}
    (hempty : ¬P SampleStore.empty) (hstep : ∀ s w, P (s.apply w) ↔ Q w ∨ P s)
    (ws : List (Write α)) : P (SampleStore.ofWrites ws) ↔ ∃ w ∈ ws, Q w := by
  -- A store is reached by its last write, so the list is taken apart from its end.
  induction ws using List.reverseRecOn with
  | nil => exact iff_of_false hempty (by simp)
  | append_singleton ws w ih =>
      rw [SampleStore.ofWrites_concat, hstep, ih]
      simp [or_and_right, exists_or, or_comm]

theorem known_ofWrites (ws : List (Write α)) (e : Entity) :
    (SampleStore.ofWrites ws).Known e ↔ ∃ w ∈ ws, w.entity = e :=
  ofWrites_iff_exists (P := fun s => s.Known e) (by simp [SampleStore.Known, SampleStore.empty])
    (fun s w => s.known_apply w e) ws

theorem stored_ofWrites (ws : List (Write α)) (e : Entity) :
    (SampleStore.ofWrites ws).Stored e ↔ ∃ w ∈ ws, w.entity = e ∧ w.stores = true :=
  ofWrites_iff_exists (P := fun s => s.Stored e)
    (by simp [SampleStore.stored_iff, SampleStore.days, SampleStore.empty])
    (fun s w => s.stored_apply w e) ws

/-- The count falls on the stored entities if and only if every known entity is stored. -/
theorem SampleStore.entityCount_eq_stored_iff {s : SampleStore α}
    (h : ∀ e, s.Stored e → s.Known e) :
    (s.entityCount : ℕ∞) = {e | s.Stored e}.encard ↔ ∀ e, s.Known e → s.Stored e := by
  rw [SampleStore.entityCount_eq_encard]
  constructor
  · intro hcard e hknown
    -- A set of entities is finite that has no more members than a store has entries.
    have hfinite : {e | s.Known e}.Finite :=
      Set.finite_of_encard_eq_coe s.entityCount_eq_encard.symm
    have heq : {e | s.Stored e} = {e | s.Known e} :=
      (hfinite.subset h).eq_of_subset_of_encard_le h hcard.le
    exact heq.symm.subset hknown
  · intro hall
    have heq : {e | s.Known e} = {e | s.Stored e} := Set.ext fun e => ⟨hall e, h e⟩
    rw [heq]

/-- **What the count of entities counts.**  After any writes an entity has a stored day if and only
if one of them brought it a sample, yet the count is that of the entities that a write has named.
It is the count of the entities with a stored day if and only if each entity that is named is also
brought a sample. -/
theorem entityCount_ofWrites (ws : List (Write α)) :
    (∀ e, (SampleStore.ofWrites ws).Stored e ↔ ∃ w ∈ ws, w.entity = e ∧ w.stores = true) ∧
    ((SampleStore.ofWrites ws).entityCount : ℕ∞) = {e | ∃ w ∈ ws, w.entity = e}.encard ∧
    (((SampleStore.ofWrites ws).entityCount : ℕ∞) =
        {e | (SampleStore.ofWrites ws).Stored e}.encard ↔
      ∀ w ∈ ws, ∃ w' ∈ ws, w'.entity = w.entity ∧ w'.stores = true) := by
  refine ⟨stored_ofWrites ws, ?_, ?_⟩
  · simp only [SampleStore.entityCount_eq_encard, known_ofWrites]
  · rw [SampleStore.entityCount_eq_stored_iff]
    · simp only [known_ofWrites, stored_ofWrites]
      constructor
      · intro h w hw
        exact h w.entity ⟨w, hw, rfl⟩
      · rintro h e ⟨w, hw, rfl⟩
        exact h w hw
    · intro e hstored
      obtain ⟨w, hw, he, -⟩ := (stored_ofWrites ws e).1 hstored
      exact (known_ofWrites ws e).2 ⟨w, hw, he⟩

/-- A batch without points is counted, though no entity has a stored day after it. -/
theorem empty_batch_is_counted :
    (SampleStore.ofWrites [Write.batch ⟨"1", "1"⟩ ([] : List (Int × Float))]).entityCount = 1 ∧
    ∀ e, ¬(SampleStore.ofWrites [Write.batch ⟨"1", "1"⟩ ([] : List (Int × Float))]).Stored e := by
  refine ⟨by decide +kernel, ?_⟩
  intro e hstored
  obtain ⟨w, hw, -, hstores⟩ := (stored_ofWrites _ e).1 hstored
  cases List.mem_singleton.1 hw
  cases hstores

end MetricQuery
