/-
  MetricQuery.Entity
  ──────────────────
  **WHOSE SAMPLES THEY ARE.**

  One time series belongs to one sensor of one node.  Entities are ordered by
  sensor first and node second, each by code point.

    • `Entity`         — the pair, with a lawful total order,
    • `Entity.display` — its text in messages and listings.
-/
namespace MetricQuery

/-- The owner of a time series. -/
@[ext] structure Entity where
  sensor : String
  node : String
  deriving DecidableEq, Repr

namespace Entity

instance : Ord Entity where
  compare := compareLex (compareOn Entity.sensor) (compareOn Entity.node)

instance : Std.TransOrd Entity :=
  inferInstanceAs (Std.TransCmp (compareLex (compareOn Entity.sensor) (compareOn Entity.node)))

instance : Std.LawfulEqOrd Entity where
  eq_of_compare {a b} h := by
    have h' := compareLex_eq_eq.1 h
    exact Entity.ext (Std.LawfulEqOrd.eq_of_compare h'.1) (Std.LawfulEqOrd.eq_of_compare h'.2)

/-- The text of an entity. -/
def display (e : Entity) : String :=
  "sid=" ++ e.sensor ++ ",nid=" ++ e.node

end Entity
end MetricQuery
