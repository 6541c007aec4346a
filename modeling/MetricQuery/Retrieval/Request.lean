/-
  MetricQuery.Retrieval.Request
  ─────────────────────────────
  **WHAT IS ASKED FOR.**

  A request names a source, a range of time, and how the samples are rolled up
  at each entity, across entities and in the result.  A configuration supplies
  all of it but the source and the range.

    • `Config.standard`    — the configuration that is used unless another is given,
    • `Request.ofConfig`   — the request that a configuration completes.
-/
import MetricQuery.Aggregation
import MetricQuery.Entity
import MetricQuery.Resolution

namespace MetricQuery

/-! ## §1. Configurations. -/

/-- The choices that requests have in common. -/
structure Config (α : Type) where
  /-- The name of the zone that buckets follow. -/
  timezone : String
  padding : Padding α
  nodeResolution : Resolution
  nodeAggregation : Aggregation
  combineAggregation : Aggregation
  resultResolution : Resolution
  resultAggregation : Aggregation

namespace Config

/-- Averages of five minutes at each entity, their sum over the entities, summed up by the hour in
universal time. -/
def standard : Config Float where
  timezone := "UTC"
  padding := Padding.missing
  nodeResolution := .fiveMinutes
  nodeAggregation := .avg
  combineAggregation := .sum
  resultResolution := .hour
  resultAggregation := .sum

/-- Equal choices, with paddings that stand for the same missing values. -/
def same {α : Type} [Quantity α] (c d : Config α) : Bool :=
  c.timezone == d.timezone && c.padding.agrees d.padding &&
    c.nodeResolution == d.nodeResolution && c.nodeAggregation == d.nodeAggregation &&
    c.combineAggregation == d.combineAggregation &&
    c.resultResolution == d.resultResolution && c.resultAggregation == d.resultAggregation

end Config

/-! ## §2. Requests. -/

/-- Where a retrieval takes its data from. -/
inductive Source where
  /-- The samples of entities; those of several are combined. -/
  | entities (entities : List Entity)
  /-- The value of a formula. -/
  | formula (text : String)
  deriving DecidableEq, Repr

/-- A retrieval over `[start, stop)`. -/
structure Request (α : Type) where
  source : Source
  start : Int
  stop : Int
  nodeResolution : Resolution
  nodeAggregation : Aggregation
  combineAggregation : Aggregation
  resultResolution : Resolution
  resultAggregation : Aggregation
  padding : Padding α

namespace Request

variable {α : Type}

/-- The request for a source and a range, with the choices of a configuration. -/
def ofConfig (config : Config α) (source : Source) (start stop : Int) : Request α where
  source
  start
  stop
  nodeResolution := config.nodeResolution
  nodeAggregation := config.nodeAggregation
  combineAggregation := config.combineAggregation
  resultResolution := config.resultResolution
  resultAggregation := config.resultAggregation
  padding := config.padding

/-- Equal requests, with paddings that stand for the same missing values. -/
def same [Quantity α] (r s : Request α) : Bool :=
  r.source == s.source && r.start == s.start && r.stop == s.stop &&
    r.nodeResolution == s.nodeResolution && r.nodeAggregation == s.nodeAggregation &&
    r.combineAggregation == s.combineAggregation &&
    r.resultResolution == s.resultResolution && r.resultAggregation == s.resultAggregation &&
    r.padding.agrees s.padding

end Request
end MetricQuery
