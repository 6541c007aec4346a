/-
  MetricQuery.Codec.Samples
  ─────────────────────────
  **JSON FORMS OF SERIES, STORED DAYS AND ANOMALIES.**

  Maps from numbers are objects whose keys are the numbers in decimal.

    • `Series.toJson`, `Series.ofJson?`   — a series,
    • `DayBucket.ofJson?`                 — a day of samples,
    • `AnomalyRecord`, `AnomalyQuery`     — records and queries.
-/
import MetricQuery.Codec.Basic
import MetricQuery.Series.Basic
import MetricQuery.Store.Anomaly
import MetricQuery.Store.Samples

namespace MetricQuery

/-! ## §1. Maps from numbers. -/

/-- The integer between the bounds that a key spells. -/
def Json.key? (lo hi : Int) (key : String) : Option Int :=
  (Json.integerText? key).bind fun n => if lo ≤ n ∧ n ≤ hi then some n else none

/-- The instant that a key spells. -/
def Json.instant? (key : String) : Option Int :=
  Json.key? (-9223372036854775808) 9223372036854775807 key

namespace Series

/-- A series as an object from instants to values. -/
def toJson (s : Series Float) : Json :=
  .object (s.points.map fun (t, v) => (toString t, .ofFloat v))

/-- The series of an object from instants to values. -/
def ofJson? (j : Json) : Option (Series Float) := do
  let fields ← j.object?
  let points ← fields.mapM fun (k, v) => do
    let t ← Json.instant? k
    let v ← v.float?
    pure (t, v)
  pure (ofPoints points)

end Series

/-! ## §2. Days of samples. -/

/-- A stored sample: a number, or null where the value is missing. -/
def Json.sample? : Json → Option (Option Float)
  | .null => some none
  | j => j.float?.map some

/-- The samples of a day, by the second within it. -/
def DaySamples.ofJson? (j : Json) : Option (DaySamples Float) := do
  let fields ← j.object?
  let samples ← fields.mapM fun (k, v) => do
    let second ← Json.key? 0 4294967295 k
    let v ← v.sample?
    pure (second.toNat, v)
  pure (Std.ExtTreeMap.ofList samples)

/-- A day of an entity. -/
def DayBucket.ofJson? (j : Json) : Option (DayBucket Float) := do
  let parts ← j.record? ["day", "samples"]
  let day ← Json.required? Json.int64? parts "day"
  let samples ← Json.required? DaySamples.ofJson? parts "samples"
  pure ⟨day, samples⟩

/-! ## §3. Anomalies. -/

namespace Grouping

/-- The grouping of this name. -/
def ofJson? (j : Json) : Option Grouping :=
  j.name?.bind ofName?

end Grouping

namespace AnomalyRecord

/-- A recorded anomaly as an object. -/
def toJson (r : AnomalyRecord) : Json :=
  .object [("entity", r.entity.toJson), ("timestamp", .integer r.timestamp),
    ("detector", .string r.detector), ("score", .ofFloat r.score)]

/-- The anomaly of an object. -/
def ofJson? (j : Json) : Option AnomalyRecord := do
  let parts ← j.record? ["entity", "timestamp", "detector", "score"]
  let entity ← Json.required? Entity.ofJson? parts "entity"
  let timestamp ← Json.required? Json.int64? parts "timestamp"
  let detector ← Json.required? Json.string? parts "detector"
  let score ← Json.required? Json.float? parts "score"
  pure ⟨entity, timestamp, detector, score⟩

end AnomalyRecord

/-- The query of an object; the entities may be left out. -/
def AnomalyQuery.ofJson? (j : Json) : Option AnomalyQuery := do
  let parts ← j.record? ["entities", "start", "end", "grouping"]
  let entities ← Json.defaulted? (Json.list? Entity.ofJson?) [] parts "entities"
  let start ← Json.required? Json.int64? parts "start"
  let stop ← Json.required? Json.int64? parts "end"
  let grouping ← Json.required? Grouping.ofJson? parts "grouping"
  pure ⟨entities, start, stop, grouping⟩

end MetricQuery
