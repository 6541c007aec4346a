/-
  MetricQuery.Json.Value
  ──────────────────────
  **JSON VALUES.**

  Integers and other numbers are kept apart: a field that holds a whole number
  of seconds accepts `60` and refuses `60.0`.

    • `Json`                 — values,
    • `Json.ofFloat`         — a number, or null where JSON has none,
    • `Json.float?` and others — what a value is read as.
-/
namespace MetricQuery

/-- A JSON value.  The keys of an object are distinct. -/
inductive Json where
  | null
  | bool (b : Bool)
  | integer (n : Int)
  | number (x : Float)
  | string (s : String)
  | array (items : List Json)
  | object (fields : List (String × Json))

namespace Json

/-! ## §1. Writing. -/

/-- A number that is not finite has no JSON form and is written as null. -/
def ofFloat (x : Float) : Json :=
  if x.isFinite then .number x else .null

/-- The fields of an object, where the last of several fields of one name counts. -/
def ofFields (fields : List (String × Json)) : Json :=
  .object (distinct fields)
where
  distinct : List (String × Json) → List (String × Json)
    | [] => []
    | f :: rest => if rest.any fun g => g.1 == f.1 then distinct rest else f :: distinct rest

/-! ## §2. Reading. -/

/-- The truth value, if the value is one. -/
def bool? : Json → Option Bool
  | bool b => some b
  | _ => none

/-- The integer, if it lies between the bounds. -/
def integer? (lo hi : Int) : Json → Option Int
  | integer n => if lo ≤ n ∧ n ≤ hi then some n else none
  | _ => none

/-- The number; an integer counts as one. -/
def float? : Json → Option Float
  | integer n => some (Float.ofInt n)
  | number x => some x
  | _ => none

/-- The text, if the value is one. -/
def string? : Json → Option String
  | string s => some s
  | _ => none

/-- The items of an array. -/
def array? : Json → Option (List Json)
  | array items => some items
  | _ => none

/-- The fields of an object. -/
def object? : Json → Option (List (String × Json))
  | object fields => some fields
  | _ => none

/-- The field of an object. -/
def field? (name : String) : Json → Option Json
  | object fields => fields.lookup name
  | _ => none

/-- Signed numbers of 64 bits. -/
def int64? : Json → Option Int :=
  integer? (-9223372036854775808) 9223372036854775807

/-- Natural numbers of 32 bits. -/
def nat32? (j : Json) : Option Nat :=
  (j.integer? 0 4294967295).map Int.toNat

end Json
end MetricQuery
