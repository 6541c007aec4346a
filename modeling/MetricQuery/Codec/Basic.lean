/-
  MetricQuery.Codec.Basic
  ───────────────────────
  **JSON FORMS OF THE SMALL TYPES.**

  A record is an object with a field for each of its parts, and fields that are
  not asked for do not matter; the parts may also stand in an array, in the
  order of their declaration.  A name is a string, or an object whose only field
  has that name and no content.

    • `Json.record?`, `Json.recordUpTo?` — the parts of a record by name,
    • `Json.name?`                       — a name,
    • `ofJson?_toJson` for resolutions, aggregations and entities.
-/
import MetricQuery.Aggregation
import MetricQuery.Entity
import MetricQuery.Json.Reader
import MetricQuery.Resolution

namespace MetricQuery

/-! ## §1. Records and names. -/

namespace Json

/-- The parts of a record of which trailing parts may be left out of an array. -/
def recordUpTo? (names : List String) : Json → Option (List (String × Json))
  | object fields => some fields
  | array items => if items.length ≤ names.length then some (names.zip items) else none
  | _ => none

/-- The parts of a record by name. -/
def record? (names : List String) : Json → Option (List (String × Json))
  | object fields => some fields
  | array items => if items.length = names.length then some (names.zip items) else none
  | _ => none

/-- A part that has to be there, as `read` reads it. -/
def required? {β : Type} (read : Json → Option β) (parts : List (String × Json))
    (name : String) : Option β :=
  (parts.lookup name).bind read

/-- A part that may be left out for `fallback`. -/
def defaulted? {β : Type} (read : Json → Option β) (fallback : β) (parts : List (String × Json))
    (name : String) : Option β :=
  match parts.lookup name with
  | some j => read j
  | none => some fallback

/-- A name. -/
def name? : Json → Option String
  | string s => some s
  | object [(s, null)] => some s
  | _ => none

/-- The items of an array, each as `read` reads it. -/
def list? {β : Type} (read : Json → Option β) (j : Json) : Option (List β) :=
  j.array?.bind fun items => items.mapM read

end Json

/-! ## §2. Small types. -/

namespace Resolution

/-- A resolution is written as its seconds. -/
def toJson (r : Resolution) : Json :=
  .integer r.seconds

/-- The resolution of so many seconds. -/
def ofJson? (j : Json) : Option Resolution :=
  j.nat32?.bind ofSeconds

theorem ofJson?_toJson (r : Resolution) : ofJson? r.toJson = some r := by
  cases r <;> rfl

end Resolution

namespace Aggregation

/-- An aggregation is written as its name. -/
def toJson (agg : Aggregation) : Json :=
  .string agg.name

/-- The aggregation of exactly this name. -/
def ofJson? (j : Json) : Option Aggregation :=
  j.name?.bind ofExactName?

theorem ofJson?_toJson (agg : Aggregation) : ofJson? agg.toJson = some agg :=
  ofExactName?_name agg

end Aggregation

namespace Entity

/-- An entity is written as its two identifiers. -/
def toJson (e : Entity) : Json :=
  .object [("sensor_id", .string e.sensor), ("node_id", .string e.node)]

/-- The entity of two identifiers, which have to be strings. -/
def ofJson? (j : Json) : Option Entity := do
  let parts ← j.record? ["sensor_id", "node_id"]
  let sensor ← Json.required? Json.string? parts "sensor_id"
  let node ← Json.required? Json.string? parts "node_id"
  pure ⟨sensor, node⟩

theorem ofJson?_toJson (e : Entity) : ofJson? e.toJson = some e := rfl

end Entity

namespace Padding

/-- A padding is written as its value, and as null if that is not finite. -/
def toJson (pad : Padding Float) : Json :=
  .ofFloat pad.value

/-- The padding of a number; null stands for the undefined number. -/
def ofJson? : Json → Option (Padding Float)
  | .null => some missing
  | j => j.float?.map Padding.mk

end Padding
end MetricQuery
