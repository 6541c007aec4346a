/-
  MetricQuery.Store.Anomaly
  ─────────────────────────
  **RECORDED ANOMALIES AND THEIR LISTING BY GROUP.**

  Scanners record anomalies.  A listing counts those of a range of time by
  entity, by detector or by both, with the first and the last time of each group.

    • `AnomalyQuery.selects`  — the records that a query is about,
    • `Grouping.keyOf`        — the group of a record,
    • `groupedAnomalies`      — one row for each group, ascending.
-/
import Std.Data.ExtTreeMap
import MetricQuery.Entity
import MetricQuery.Fault

namespace MetricQuery

/-! ## §1. Records and queries. -/

/-- An anomaly that a scanner found. -/
structure AnomalyRecord where
  entity : Entity
  timestamp : Int
  detector : String
  score : Float

/-- What the rows of a listing stand for. -/
inductive Grouping where
  | entity
  | detector
  | entityAndDetector
  deriving DecidableEq, Repr

namespace Grouping

/-- Every grouping. -/
def all : List Grouping :=
  [entity, detector, entityAndDetector]

/-- The name of a grouping. -/
def name : Grouping → String
  | entity => "entity"
  | detector => "detector"
  | entityAndDetector => "entity_and_detector"

/-- The grouping of this name. -/
def ofName? (s : String) : Option Grouping :=
  all.find? fun g => g.name == s

theorem ofName?_name (g : Grouping) : ofName? g.name = some g := by
  cases g <;> decide +kernel

end Grouping

/-- A listing over `[start, stop)`.  No entities means all of them. -/
structure AnomalyQuery where
  entities : List Entity
  start : Int
  stop : Int
  grouping : Grouping
  deriving DecidableEq, Repr

/-- The record lies in the range and belongs to one of the entities. -/
def AnomalyQuery.selects (q : AnomalyQuery) (r : AnomalyRecord) : Bool :=
  q.start ≤ r.timestamp && r.timestamp < q.stop &&
    (q.entities.isEmpty || q.entities.contains r.entity)

/-! ## §2. Groups. -/

/-- What the records of a group have in common. -/
@[ext] structure GroupKey where
  entity : Option Entity
  detector : Option String
  deriving DecidableEq, Repr

namespace GroupKey

instance : Ord GroupKey where
  compare := compareLex (compareOn GroupKey.entity) (compareOn GroupKey.detector)

instance : Std.TransOrd GroupKey :=
  inferInstanceAs
    (Std.TransCmp (compareLex (compareOn GroupKey.entity) (compareOn GroupKey.detector)))

instance : Std.LawfulEqOrd GroupKey where
  eq_of_compare {a b} h := by
    have h' := compareLex_eq_eq.1 h
    exact GroupKey.ext (Std.LawfulEqOrd.eq_of_compare h'.1) (Std.LawfulEqOrd.eq_of_compare h'.2)

end GroupKey

/-- The group of a record. -/
def Grouping.keyOf (g : Grouping) (r : AnomalyRecord) : GroupKey :=
  match g with
  | .entity => ⟨some r.entity, none⟩
  | .detector => ⟨none, some r.detector⟩
  | .entityAndDetector => ⟨some r.entity, some r.detector⟩

/-- How many records there are, and from when to when. -/
structure AnomalyCount where
  count : Nat
  firstSeen : Int
  lastSeen : Int
  deriving DecidableEq, Repr

namespace AnomalyCount

/-- A single record. -/
def one (timestamp : Int) : AnomalyCount :=
  ⟨1, timestamp, timestamp⟩

/-- Two counts of different records, taken together. -/
def merge (a b : AnomalyCount) : AnomalyCount :=
  ⟨a.count + b.count, min a.firstSeen b.firstSeen, max a.lastSeen b.lastSeen⟩

end AnomalyCount

/-- One row of a listing. -/
structure AnomalyRow where
  key : GroupKey
  count : AnomalyCount
  deriving DecidableEq, Repr

/-- One more record joins the count of its group. -/
def countRecord (g : Grouping) (counts : Std.ExtTreeMap GroupKey AnomalyCount)
    (r : AnomalyRecord) : Std.ExtTreeMap GroupKey AnomalyCount :=
  counts.alter (g.keyOf r) fun
    | some c => some (c.merge (.one r.timestamp))
    | none => some (.one r.timestamp)

/-- **The listing of a query:** one row for each group of the records it selects, ascending. -/
def groupedAnomalies (records : List AnomalyRecord) (q : AnomalyQuery) : List AnomalyRow :=
  ((records.filter q.selects).foldl (countRecord q.grouping) ∅).toList.map
    fun (key, count) => ⟨key, count⟩

/-- Anything that answers listings, or fails. -/
structure AnomalySource where
  grouped : AnomalyQuery → Except Fault (List AnomalyRow)

/-- Records in memory, as a source that never fails. -/
def AnomalySource.ofRecords (records : List AnomalyRecord) : AnomalySource :=
  ⟨fun q => .ok (groupedAnomalies records q)⟩

/-- A source of which every listing fails in the same way. -/
def AnomalySource.failing (fault : Fault) : AnomalySource :=
  ⟨fun _ => .error fault⟩

end MetricQuery
