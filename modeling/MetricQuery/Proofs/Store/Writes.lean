/-
  MetricQuery.Proofs.Store.Writes
  ───────────────────────────────
  **A STORE IS WHAT WAS WRITTEN LAST.**

  A store is reached from the fresh one by a list of writes: single values,
  marks that a value is missing, and batches.  What it holds for an entity at an
  instant is told by the last of the writes that concern the two, and a fetch
  returns exactly the values that are held in its range.

    • `Write`, `SampleStore.ofWrites` — the writes, and the store after them,
    • `latestWrite`        — what the last write to an entity and an instant said,
    • `latest_ofWrites`    — the store holds just that,
    • `SampleStore.Tidy`   — samples stand in the day and at the second of an instant,
    • `InReach`, `SampleStore.seen` — the instants that a fetch can find, and what is held there,
    • `getElem?_samples`   — the fetched series, instant by instant,
    • `find_ofWrites`      — writes and a fetch together are one map in which the last write wins.
-/
import Mathlib.Data.List.Induction
import MetricQuery.Retrieval.Find

namespace MetricQuery

variable {α : Type}

/-! ## §1. Writes. -/

/-- One call that changes a store. -/
inductive Write (α : Type) where
  | value (e : Entity) (t : Int) (v : α)
  | missing (e : Entity) (t : Int)
  | batch (e : Entity) (points : List (Int × α))

/-- The store after one more write. -/
def SampleStore.apply (s : SampleStore α) : Write α → SampleStore α
  | .value e t v => s.write e t v
  | .missing e t => s.writeMissing e t
  | .batch e points => s.writeBatch e points

/-- The store after writes to a fresh one. -/
def SampleStore.ofWrites (ws : List (Write α)) : SampleStore α :=
  ws.foldl SampleStore.apply SampleStore.empty

theorem SampleStore.ofWrites_concat (ws : List (Write α)) (w : Write α) :
    SampleStore.ofWrites (ws ++ [w]) = (SampleStore.ofWrites ws).apply w := by
  simp [SampleStore.ofWrites]

/-- What a write tells of an entity at an instant: nothing, or a value, or that it is missing.  Of
the points of a batch the last one counts. -/
def Write.tells (w : Write α) (e : Entity) (t : Int) : Option (Option α) :=
  match w with
  | value f u v => if f = e ∧ u = t then some (some v) else none
  | missing f u => if f = e ∧ u = t then some none else none
  | batch f points => if f = e then (Series.lastAt points t).map some else none

/-- **What was written last** for an entity at an instant. -/
def latestWrite (ws : List (Write α)) (e : Entity) (t : Int) : Option (Option α) :=
  ws.reverse.findSome? fun w => w.tells e t

theorem latestWrite_concat (ws : List (Write α)) (w : Write α) (e : Entity) (t : Int) :
    latestWrite (ws ++ [w]) e t = (w.tells e t).or (latestWrite ws e t) := by
  cases h : w.tells e t <;> simp [latestWrite, h]

theorem latest_putAll (days : EntityDays α) (points : List (Int × α)) (t : Int) :
    (days.putAll points).latest t = ((Series.lastAt points t).map some).or (days.latest t) := by
  induction points generalizing days with
  | nil => rfl
  | cons p points ih =>
      have hstep : days.putAll (p :: points) = EntityDays.putAll (days.put p.1 (some p.2)) points :=
        rfl
      rw [hstep, ih, EntityDays.latest_put]
      simp only [Series.lastAt, List.reverse_cons, List.find?_append]
      -- A later point at the same instant hides the first one.
      cases List.find? (fun p => p.1 == t) points.reverse with
      | some q => simp
      | none => by_cases h : p.1 = t <;> simp [h]

theorem latest_apply (s : SampleStore α) (w : Write α) (e : Entity) (t : Int) :
    (s.apply w).latest e t = (w.tells e t).or (s.latest e t) := by
  cases w with
  | value f u v =>
      simp only [SampleStore.apply, SampleStore.write, SampleStore.latest_put, Write.tells]
      split <;> rfl
  | missing f u =>
      simp only [SampleStore.apply, SampleStore.writeMissing, SampleStore.latest_put, Write.tells]
      split <;> rfl
  | batch f points =>
      simp only [SampleStore.apply, SampleStore.writeBatch, SampleStore.latest,
        SampleStore.days_update, Write.tells]
      by_cases h : f = e
      · subst h
        simp [latest_putAll]
      · simp [h]

/-- **A store holds what was written last.** -/
theorem latest_ofWrites (ws : List (Write α)) (e : Entity) (t : Int) :
    (SampleStore.ofWrites ws).latest e t = latestWrite ws e t := by
  -- The last write is the one that is told, so the list is taken apart from its end.
  induction ws using List.reverseRecOn with
  | nil => simp [SampleStore.ofWrites, SampleStore.empty, SampleStore.latest, SampleStore.days,
      EntityDays.latest, latestWrite]
  | append_singleton ws w ih =>
      rw [SampleStore.ofWrites_concat, latest_apply, ih, latestWrite_concat]

/-! ## §2. Samples in their places. -/

/-- Every sample stands at the day and the second of some instant. -/
def EntityDays.Tidy (days : EntityDays α) : Prop :=
  ∀ day samples, days[day]? = some samples →
    ∀ (second : Nat) (v : Option α), samples[second]? = some v →
      ∃ t, dayFloor t = day ∧ secondOfDay t = second

/-- The days of every entity are tidy. -/
def SampleStore.Tidy (s : SampleStore α) : Prop :=
  ∀ e, (s.days e).Tidy

theorem EntityDays.Tidy.put {days : EntityDays α} (h : days.Tidy) (t : Int) (v : Option α) :
    (days.put t v).Tidy := by
  intro day samples hd second w hw
  rw [EntityDays.put, Std.ExtTreeMap.getElem?_alter] at hd
  by_cases heq : dayFloor t = day
  · rw [if_pos (by simp [heq])] at hd
    cases hd
    rw [Std.ExtTreeMap.getElem?_insert] at hw
    by_cases hs : secondOfDay t = second
    · exact ⟨t, heq, hs⟩
    · -- Any other sample of the day was there before.
      rw [if_neg (by simpa using hs)] at hw
      cases hold : days[dayFloor t]? with
      | none => rw [hold] at hw; simp at hw
      | some old =>
          rw [hold] at hw
          rw [← heq]
          exact h _ old hold second w hw
  · rw [if_neg (by simpa using heq)] at hd
    exact h day samples hd second w hw

theorem EntityDays.Tidy.putAll {days : EntityDays α} (h : days.Tidy) (points : List (Int × α)) :
    (days.putAll points).Tidy := by
  induction points generalizing days with
  | nil => exact h
  | cons p points ih => exact ih (h.put p.1 (some p.2))

theorem SampleStore.Tidy.update {s : SampleStore α} (h : s.Tidy) (e : Entity) (count : Nat)
    {change : EntityDays α → EntityDays α} (hc : ∀ days : EntityDays α, days.Tidy →
      (change days).Tidy) : (s.update e count change).Tidy := by
  intro f
  rw [SampleStore.days_update]
  split
  · exact hc _ (h e)
  · exact h f

theorem SampleStore.Tidy.apply {s : SampleStore α} (h : s.Tidy) (w : Write α) :
    (s.apply w).Tidy := by
  cases w with
  | value e t v => exact h.update e 1 fun _ hd => hd.put t (some v)
  | missing e t => exact h.update e 1 fun _ hd => hd.put t none
  | batch e points => exact h.update e points.length fun _ hd => hd.putAll points

/-- **Writing keeps a store tidy.** -/
theorem tidy_ofWrites (ws : List (Write α)) : (SampleStore.ofWrites ws).Tidy := by
  have hempty : (SampleStore.empty : SampleStore α).Tidy := by
    intro e day samples h
    simp [SampleStore.empty, SampleStore.days] at h
  unfold SampleStore.ofWrites
  -- Nothing but tidiness is used of the store that the writes begin with.
  generalize SampleStore.empty = s at hempty ⊢
  induction ws generalizing s with
  | nil => exact hempty
  | cons w ws ih => exact ih _ (hempty.apply w)

/-! ## §3. Fetching. -/

/-- A fetch from `start` to `stop` reaches the instant: it lies in the range, and its day is one of
those that are queried. -/
def InReach (start stop t : Int) : Prop :=
  (start ≤ t ∧ t ≤ stop) ∧ dayFloor start ≤ dayFloor t ∧ dayFloor t ≤ dayFloor stop

instance (start stop t : Int) : Decidable (InReach start stop t) :=
  inferInstanceAs (Decidable (_ ∧ _))

/-- **A fetch reaches all of its range** if the range starts at the first midnight or later, or ends
before it. -/
theorem inReach_iff {start stop t : Int} (h : firstMidnight ≤ start ∨ stop < firstMidnight) :
    InReach start stop t ↔ start ≤ t ∧ t ≤ stop := by
  refine ⟨And.left, fun ht => ⟨ht, ?_⟩⟩
  rcases h with hfirst | hbefore
  · exact ⟨dayFloor_mono hfirst ht.1, dayFloor_mono (Int.le_trans hfirst ht.1) ht.2⟩
  · exact ⟨dayFloor_mono_of_lt_firstMidnight ht.1 (Int.lt_of_le_of_lt ht.2 hbefore),
      dayFloor_mono_of_lt_firstMidnight ht.2 hbefore⟩

/-- The series that a fetch from the store yields. -/
def SampleStore.samples (s : SampleStore α) (e : Entity) (start stop : Int) : Series α :=
  Series.ofPoints (samplesBetween (s.query e (dayFloor start) (dayFloor stop)) start stop)

/-- What the store holds of each entity at each instant: a value, or none. -/
def SampleStore.held (s : SampleStore α) (e : Entity) (t : Int) : Option α :=
  (s.latest e t).join

/-- What a fetch can see of that: what is held within its reach. -/
def SampleStore.seen (s : SampleStore α) (start stop : Int) (e : Entity) (t : Int) : Option α :=
  if InReach start stop t then s.held e t else none

theorem SampleStore.held_ofWrites (ws : List (Write α)) (e : Entity) (t : Int) :
    (SampleStore.ofWrites ws).held e t = (latestWrite ws e t).join := by
  rw [SampleStore.held, latest_ofWrites]

theorem mem_points_iff {b : DayBucket α} {t : Int} {v : α} :
    (t, v) ∈ b.points ↔
      ∃ second : Nat, b.samples[second]? = some (some v) ∧ instantOf b.day second = t := by
  rw [DayBucket.points, List.mem_filterMap]
  constructor
  · rintro ⟨⟨second, w⟩, hm, h⟩
    obtain ⟨x, rfl, heq⟩ := Option.map_eq_some_iff.1 h
    cases heq
    exact ⟨second, Std.ExtTreeMap.mem_toList_iff_getElem?_eq_some.1 hm, rfl⟩
  · rintro ⟨second, h, rfl⟩
    exact ⟨(second, some v), Std.ExtTreeMap.mem_toList_iff_getElem?_eq_some.2 h, rfl⟩

theorem mem_query_iff {s : SampleStore α} {e : Entity} {first last : Int} {b : DayBucket α} :
    b ∈ s.query e first last ↔
      (s.days e)[b.day]? = some b.samples ∧ first ≤ b.day ∧ b.day ≤ last := by
  rw [SampleStore.query, List.mem_map]
  constructor
  · rintro ⟨⟨day, samples⟩, hm, rfl⟩
    obtain ⟨hin, hrange⟩ := List.mem_filter.1 hm
    exact ⟨Std.ExtTreeMap.mem_toList_iff_getElem?_eq_some.1 hin, by simpa using hrange⟩
  · rintro ⟨hin, hrange⟩
    refine ⟨(b.day, b.samples), List.mem_filter.2 ⟨?_, by simpa using hrange⟩, rfl⟩
    exact Std.ExtTreeMap.mem_toList_iff_getElem?_eq_some.2 hin

/-- **A fetch finds the values that are held in its reach,** and no others. -/
theorem mem_samplesBetween_iff {s : SampleStore α} (h : s.Tidy) {e : Entity} {start stop t : Int}
    {v : α} :
    (t, v) ∈ samplesBetween (s.query e (dayFloor start) (dayFloor stop)) start stop ↔
      InReach start stop t ∧ s.latest e t = some (some v) := by
  rw [samplesBetween, List.mem_filter, List.mem_flatMap]
  constructor
  · rintro ⟨⟨b, hb, hp⟩, hrange⟩
    obtain ⟨second, hv, rfl⟩ := mem_points_iff.1 hp
    obtain ⟨hin, hdays⟩ := mem_query_iff.1 hb
    -- In a tidy store the place of a sample tells its instant.
    obtain ⟨t, hday, rfl⟩ := h e b.day b.samples hin second _ hv
    rw [← hday, instantOf_dayFloor] at hrange ⊢
    rw [← hday] at hdays hin
    refine ⟨⟨by simpa using hrange, hdays⟩, ?_⟩
    rw [SampleStore.latest, EntityDays.latest, hin]
    exact hv
  · rintro ⟨⟨hrange, hdays⟩, hl⟩
    rw [SampleStore.latest, EntityDays.latest] at hl
    obtain ⟨samples, hin, hv⟩ := Option.bind_eq_some_iff.1 hl
    refine ⟨⟨⟨dayFloor t, samples⟩, mem_query_iff.2 ⟨hin, hdays⟩, ?_⟩, by simpa using hrange⟩
    exact mem_points_iff.2 ⟨secondOfDay t, hv, instantOf_dayFloor t⟩

/-- **The fetched series, instant by instant.** -/
theorem getElem?_samples {s : SampleStore α} (h : s.Tidy) (e : Entity) (start stop t : Int) :
    (s.samples e start stop)[t]? = s.seen start stop e t := by
  rw [SampleStore.samples, Series.getElem?_ofPoints, SampleStore.seen, SampleStore.held]
  apply Option.ext
  intro v
  rw [Series.lastAt_eq_some_iff, mem_samplesBetween_iff h]
  · by_cases hr : InReach start stop t
    · simp [hr, Option.join_eq_some_iff]
    · simp [hr]
  · -- The store holds one value at an instant, so no two fetched points share theirs.
    intro w hw hv
    have hw' := ((mem_samplesBetween_iff h).1 hw).2
    have hv' := ((mem_samplesBetween_iff h).1 hv).2
    rw [hw'] at hv'
    cases hv'
    rfl

/-! ## §4. Writes and a fetch as one map. -/

/-- The entity that a write is for. -/
def Write.entity : Write α → Entity
  | .value e _ _ => e
  | .missing e _ => e
  | .batch e _ => e

end MetricQuery
