/-
  MetricQuery.Store.Samples
  ─────────────────────────
  **STORED SAMPLES.**

  A store keeps the samples of each entity in days of universal time, addressed
  by the second within the day.  A second may hold a value or the mark that its
  value is missing.  Whatever was written last stands.

    • `SampleSource`        — anything that answers queries for day buckets,
    • `SampleStore`         — samples in memory, with counters,
    • `SampleStore.latest`  — what was written last at an instant,
    • `latest_put`          — a write changes its own instant and no other.
-/
import Std.Data.ExtTreeMap
import MetricQuery.Entity
import MetricQuery.Fault
import MetricQuery.Time.Day

namespace MetricQuery

/-! ## §1. Days of samples. -/

/-- The samples of one day, by the second within the day; a missing one holds no value. -/
abbrev DaySamples (α : Type) : Type :=
  Std.ExtTreeMap Nat (Option α)

/-- One day of an entity. -/
structure DayBucket (α : Type) where
  /-- The day, named by its midnight in universal time. -/
  day : Int
  samples : DaySamples α

/-- Anything that holds samples.  A query names an entity and the first and the last day; it is
answered with the days that there are, or it fails. -/
structure SampleSource (α : Type) where
  query : Entity → Int → Int → Except Fault (List (DayBucket α))

namespace SampleSource

variable {α : Type}

/-- A source of which every query fails in the same way. -/
def failing (fault : Fault) : SampleSource α :=
  ⟨fun _ _ _ => .error fault⟩

/-- A source that gives the same answer to every query. -/
def constant (buckets : List (DayBucket α)) : SampleSource α :=
  ⟨fun _ _ _ => .ok buckets⟩

end SampleSource

/-- The days of one entity. -/
abbrev EntityDays (α : Type) : Type :=
  Std.ExtTreeMap Int (DaySamples α)

namespace EntityDays

variable {α : Type}

/-- The days with one more sample. -/
def put (days : EntityDays α) (t : Int) (v : Option α) : EntityDays α :=
  days.alter (dayFloor t) fun samples => some ((samples.getD ∅).insert (secondOfDay t) v)

/-- The days with more values, in order. -/
def putAll (days : EntityDays α) (points : List (Int × α)) : EntityDays α :=
  points.foldl (fun days p => EntityDays.put days p.1 (some p.2)) days

/-- What is stored at an instant. -/
def latest (days : EntityDays α) (t : Int) : Option (Option α) :=
  days[dayFloor t]?.bind fun samples => samples[secondOfDay t]?

/-- **A sample stands at its own instant and changes no other.** -/
theorem latest_put (days : EntityDays α) (t u : Int) (v : Option α) :
    EntityDays.latest (EntityDays.put days t v) u =
      if t = u then some v else EntityDays.latest days u := by
  by_cases h : t = u
  · subst h
    simp [EntityDays.latest, EntityDays.put]
  · rw [if_neg h, EntityDays.latest, EntityDays.put, Std.ExtTreeMap.getElem?_alter]
    by_cases hd : dayFloor t = dayFloor u
    · have hs : secondOfDay t ≠ secondOfDay u := fun hs => h (eq_of_day_of_second hd hs)
      rw [if_pos (by simp [hd])]
      simp only [Option.bind_some, Std.ExtTreeMap.getElem?_insert, Std.compare_eq_iff_eq, hs,
        if_false, EntityDays.latest, hd]
      cases days[dayFloor u]? <;> simp
    · rw [if_neg (by simpa using hd)]
      rfl

end EntityDays

/-! ## §2. The store. -/

/-- What a store has done so far. -/
structure StoreStats where
  written : Nat
  queries : Nat
  buckets : Nat
  deriving DecidableEq, Repr

/-- Samples in memory. -/
structure SampleStore (α : Type) where
  entries : Std.ExtTreeMap Entity (EntityDays α)
  stats : StoreStats

namespace SampleStore

variable {α : Type}

/-- A fresh store. -/
def empty : SampleStore α :=
  ⟨∅, ⟨0, 0, 0⟩⟩

/-- The days of an entity, of which there are none before its first write. -/
def days (s : SampleStore α) (e : Entity) : EntityDays α :=
  s.entries[e]?.getD ∅

/-- The store in which `change` was made to the days of an entity, counted as `count` samples. -/
def update (s : SampleStore α) (e : Entity) (count : Nat)
    (change : EntityDays α → EntityDays α) : SampleStore α :=
  -- The entity gets its entry even when `change` adds no sample.
  ⟨s.entries.alter e fun days => some (change (days.getD ∅)),
   { s.stats with written := s.stats.written + count }⟩

/-- A value, or the mark that it is missing, is written at an instant. -/
def put (s : SampleStore α) (e : Entity) (t : Int) (v : Option α) : SampleStore α :=
  s.update e 1 fun days => days.put t v

/-- A value is written at an instant. -/
def write (s : SampleStore α) (e : Entity) (t : Int) (v : α) : SampleStore α :=
  s.put e t (some v)

/-- An instant is marked as missing. -/
def writeMissing (s : SampleStore α) (e : Entity) (t : Int) : SampleStore α :=
  s.put e t none

/-- Values are written in order.  The entity is known to the store from then on, even if there were
none. -/
def writeBatch (s : SampleStore α) (e : Entity) (points : List (Int × α)) : SampleStore α :=
  s.update e points.length fun days => days.putAll points

/-- How many entities the store knows. -/
def entityCount (s : SampleStore α) : Nat :=
  s.entries.size

/-- The days of an entity from the first to the last, both included. -/
def query (s : SampleStore α) (e : Entity) (first last : Int) : List (DayBucket α) :=
  ((s.days e).toList.filter fun (day, _) => first ≤ day && day ≤ last).map
    fun (day, samples) => ⟨day, samples⟩

/-- The store as a source, which never fails. -/
def source (s : SampleStore α) : SampleSource α :=
  ⟨fun e first last => .ok (s.query e first last)⟩

/-- The store after a query that was answered with so many buckets. -/
def countQuery (s : SampleStore α) (buckets : Nat) : SampleStore α :=
  { s with stats := { s.stats with
      queries := s.stats.queries + 1, buckets := s.stats.buckets + buckets } }

/-- What was written last for an entity at an instant: nothing, a value or the mark that it is
missing. -/
def latest (s : SampleStore α) (e : Entity) (t : Int) : Option (Option α) :=
  (s.days e).latest t

theorem days_update (s : SampleStore α) (e f : Entity) (count : Nat)
    (change : EntityDays α → EntityDays α) :
    (s.update e count change).days f = if e = f then change (s.days e) else s.days f := by
  simp only [days, update, Std.ExtTreeMap.getElem?_alter, Std.compare_eq_iff_eq]
  split <;> simp

/-- **A write changes its own entity at its own instant and nothing else.** -/
theorem latest_put (s : SampleStore α) (e f : Entity) (t u : Int) (v : Option α) :
    (s.put e t v).latest f u = if e = f ∧ t = u then some v else s.latest f u := by
  simp only [latest, put, days_update]
  by_cases he : e = f
  · subst he
    simp [EntityDays.latest_put]
  · simp [he]

end SampleStore
end MetricQuery
