/-
  MetricQuery.Codec.Config
  ────────────────────────
  **CONFIGURATIONS WRITTEN IN TOML.**

  Every part of a configuration may be left out, and keys that it does not have
  are passed over.  The zone has to be known.

    • `Config.ofToml`   — the configuration of a document, or the failure,
    • `Config.zone`     — the zone that a configuration names.
-/
import MetricQuery.Retrieval.Request
import MetricQuery.Time.Catalog
import MetricQuery.Toml.Reader

namespace MetricQuery

/-! ## §1. Parts. -/

namespace Toml

/-- The text, if the value is one. -/
def string? : Toml → Option String
  | string s => some s
  | _ => none

/-- A number as a padding; an integer counts as one. -/
def padding? : Toml → Option (Padding Float)
  | integer n => some ⟨Float.ofInt n⟩
  | float x => some ⟨x⟩
  | _ => none

/-- An integer as a number of seconds. -/
def resolution? : Toml → Option Resolution
  | integer n => if 0 ≤ n then Resolution.ofSeconds n.toNat else none
  | _ => none

/-- A name: a string, or a table whose only key has that name and no content. -/
def name? : Toml → Option String
  | string s => some s
  | table _ [(s, table _ [])] => some s
  | table _ [(s, array [])] => some s
  | _ => none

/-- The name of an aggregation. -/
def aggregation? (v : Toml) : Option Aggregation :=
  v.name?.bind Aggregation.ofExactName?

/-- A part that may be left out for `fallback`. -/
def defaulted? {β : Type} (read : Toml → Option β) (fallback : β) (fields : List (String × Toml))
    (name : String) : Option β :=
  match fields.lookup name with
  | some v => read v
  | none => some fallback

end Toml

/-! ## §2. Configurations. -/

namespace Config

/-- The configuration of a document's fields, with the standard choice for every part left out. -/
def ofTomlFields? (fields : List (String × Toml)) : Option (Config Float) := do
  let timezone ← Toml.defaulted? Toml.string? standard.timezone fields "timezone"
  let padding ← Toml.defaulted? Toml.padding? standard.padding fields "padding"
  let nodeResolution ←
    Toml.defaulted? Toml.resolution? standard.nodeResolution fields "node_resolution"
  let nodeAggregation ←
    Toml.defaulted? Toml.aggregation? standard.nodeAggregation fields "node_aggregation"
  let combineAggregation ←
    Toml.defaulted? Toml.aggregation? standard.combineAggregation fields "combine_aggregation"
  let resultResolution ←
    Toml.defaulted? Toml.resolution? standard.resultResolution fields "result_resolution"
  let resultAggregation ←
    Toml.defaulted? Toml.aggregation? standard.resultAggregation fields "result_aggregation"
  pure { timezone, padding, nodeResolution, nodeAggregation, combineAggregation,
         resultResolution, resultAggregation }

/-- The zone that a configuration names. -/
def zone {α : Type} (c : Config α) : Except Fault Zone :=
  Zone.checked c.timezone

/-- **The configuration of a document.**  Its values are checked before its zone. -/
def ofToml (text : String) : Except Fault (Config Float) := do
  match (Toml.parse? text).bind ofTomlFields? with
  | none => throw (.configuration .unreadableDocument)
  | some c =>
      let _ ← c.zone
      pure c

end Config
end MetricQuery
