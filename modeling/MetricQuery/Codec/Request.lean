/-
  MetricQuery.Codec.Request
  ─────────────────────────
  **JSON FORMS OF REQUESTS AND CONFIGURATIONS.**

  A request may leave out its padding, which then is the undefined number; every
  other part has to be there.  A configuration may leave out any part, which then
  is that of the standard configuration.

    • `Source.toJson`, `Source.ofJson?`    — where the data comes from,
    • `Request.toJson`, `Request.ofJson?`  — a request,
    • `Config.toJson`, `Config.ofJson?`    — a configuration.
-/
import MetricQuery.Codec.Basic
import MetricQuery.Retrieval.Request

namespace MetricQuery

namespace Source

/-- A source is an object whose only field is named for its kind. -/
def toJson : Source → Json
  | entities es => .object [("entities", .array (es.map Entity.toJson))]
  | formula text => .object [("formula", .string text)]

/-- The source of an object. -/
def ofJson? : Json → Option Source
  | .object [(kind, j)] =>
      if kind = "entities" then (j.list? Entity.ofJson?).map entities
      else if kind = "formula" then j.string?.map formula
      else none
  | _ => none

end Source

namespace Request

/-- The parts of a request, in the order of their declaration. -/
def parts : List String :=
  ["source", "start", "end", "node_resolution", "node_aggregation", "combine_aggregation",
   "result_resolution", "result_aggregation", "padding"]

/-- A request as an object. -/
def toJson (r : Request Float) : Json :=
  .object [("source", r.source.toJson), ("start", .integer r.start), ("end", .integer r.stop),
    ("node_resolution", r.nodeResolution.toJson),
    ("node_aggregation", r.nodeAggregation.toJson),
    ("combine_aggregation", r.combineAggregation.toJson),
    ("result_resolution", r.resultResolution.toJson),
    ("result_aggregation", r.resultAggregation.toJson), ("padding", r.padding.toJson)]

/-- The request of a JSON value, with the undefined number for a padding left out. -/
def ofJson? (j : Json) : Option (Request Float) := do
  let fields ← j.record? parts
  let source ← Json.required? Source.ofJson? fields "source"
  let start ← Json.required? Json.int64? fields "start"
  let stop ← Json.required? Json.int64? fields "end"
  let nodeResolution ← Json.required? Resolution.ofJson? fields "node_resolution"
  let nodeAggregation ← Json.required? Aggregation.ofJson? fields "node_aggregation"
  let combineAggregation ← Json.required? Aggregation.ofJson? fields "combine_aggregation"
  let resultResolution ← Json.required? Resolution.ofJson? fields "result_resolution"
  let resultAggregation ← Json.required? Aggregation.ofJson? fields "result_aggregation"
  let padding ← Json.defaulted? Padding.ofJson? Padding.missing fields "padding"
  pure { source, start, stop, nodeResolution, nodeAggregation, combineAggregation,
         resultResolution, resultAggregation, padding }

end Request

namespace Config

/-- The parts of a configuration, in the order of their declaration. -/
def parts : List String :=
  ["timezone", "padding", "node_resolution", "node_aggregation", "combine_aggregation",
   "result_resolution", "result_aggregation"]

/-- A configuration as an object. -/
def toJson (c : Config Float) : Json :=
  .object [("timezone", .string c.timezone), ("padding", c.padding.toJson),
    ("node_resolution", c.nodeResolution.toJson),
    ("node_aggregation", c.nodeAggregation.toJson),
    ("combine_aggregation", c.combineAggregation.toJson),
    ("result_resolution", c.resultResolution.toJson),
    ("result_aggregation", c.resultAggregation.toJson)]

/-- The configuration of a JSON value, with the standard choice for every part left out. -/
def ofJson? (j : Json) : Option (Config Float) := do
  let fields ← j.recordUpTo? parts
  let timezone ← Json.defaulted? Json.string? standard.timezone fields "timezone"
  let padding ← Json.defaulted? Padding.ofJson? standard.padding fields "padding"
  let nodeResolution ←
    Json.defaulted? Resolution.ofJson? standard.nodeResolution fields "node_resolution"
  let nodeAggregation ←
    Json.defaulted? Aggregation.ofJson? standard.nodeAggregation fields "node_aggregation"
  let combineAggregation ←
    Json.defaulted? Aggregation.ofJson? standard.combineAggregation fields "combine_aggregation"
  let resultResolution ←
    Json.defaulted? Resolution.ofJson? standard.resultResolution fields "result_resolution"
  let resultAggregation ←
    Json.defaulted? Aggregation.ofJson? standard.resultAggregation fields "result_aggregation"
  pure { timezone, padding, nodeResolution, nodeAggregation, combineAggregation,
         resultResolution, resultAggregation }

end Config
end MetricQuery
