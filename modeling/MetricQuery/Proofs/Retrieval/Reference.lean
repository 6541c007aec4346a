/-
  MetricQuery.Proofs.Retrieval.Reference
  ──────────────────────────────────────
  **WHAT A RETRIEVAL OF ENTITIES IS TO COMPUTE.**

  The reference is flat: it speaks of values at instants and of buckets, and
  neither of stages nor of the series between them.  Every value is looked up
  where it is needed.

    • `nodeValue`     — one entity in one bucket of the node resolution,
    • `combinedValue` — all entities in one bucket of the node resolution,
    • `resultValue`   — one bucket of the result resolution,
    • `answer`        — the series on the result grid,
    • `answer_congr`  — it depends on the buckets that lie on both grids.
-/
import Mathlib.Data.Int.Range
import Mathlib.Data.Set.Defs
import MetricQuery.Proofs.Series.Points
import MetricQuery.Retrieval.Request

namespace MetricQuery

variable {α : Type}

/-! ## §1. The reference. -/

section Reference

variable [Quantity α]

/-- The value of an entity in the bucket at `b`: the reduction, in ascending order of time, of the
values from the start of the range to its end, the end included, that lie in the bucket. -/
def nodeValue (clock : Clock) (request : Request α) (data : Int → Option α) (b : Int) :
    Option α :=
  request.padding.keep <| request.nodeAggregation.reduce <|
    (Int.range request.start (request.stop + 1)).filterMap fun t =>
      if bucketKey clock request.nodeResolution t = b then request.padding.keep (data t) else none

/-- The value of all entities in the bucket at `b`.  That of a single entity is its own; of several
it is the reduction of the values that there are, in the order of the entities. -/
def combinedValue (clock : Clock) (request : Request α) (data : Entity → Int → Option α)
    (entities : List Entity) (b : Int) : Option α :=
  match entities with
  | [e] => nodeValue clock request (data e) b
  | es => request.padding.keep <| request.combineAggregation.reduce <|
      es.filterMap fun e => nodeValue clock request (data e) b

theorem combinedValue_several (clock : Clock) (request : Request α)
    (data : Entity → Int → Option α) (e f : Entity) (es : List Entity) (b : Int) :
    combinedValue clock request data (e :: f :: es) b =
      request.padding.keep (request.combineAggregation.reduce
        ((e :: f :: es).filterMap fun e => nodeValue clock request (data e) b)) := rfl

/-- The value of the result in the bucket at `k`: the reduction, in ascending order, of the values
in the buckets on the node grid whose keys lie in it. -/
def resultValue (clock : Clock) (request : Request α) (data : Entity → Int → Option α)
    (entities : List Entity) (k : Int) : Option α :=
  request.resultAggregation.reduce <|
    (bucketKeys clock request.nodeResolution request.start request.stop).filterMap fun b =>
      if bucketKey clock request.resultResolution b = k then
        combinedValue clock request data entities b
      else none

/-- The answer to a request: on the result grid the value of each bucket, or the padding if it has
none. -/
def answer (clock : Clock) (request : Request α) (data : Entity → Int → Option α)
    (entities : List Entity) (k : Int) : Option α :=
  if k ∈ bucketKeys clock request.resultResolution request.start request.stop then
    some ((resultValue clock request data entities k).getD request.padding.value)
  else none

end Reference

/-! ## §2. What the reference depends on. -/

/-- The range of a request with its end. -/
def Request.closedRange (request : Request α) : Set Int :=
  {t | request.start ≤ t ∧ t ≤ request.stop}

/-- The instants of a range, its end included. -/
theorem mem_closedRange {start stop t : Int} :
    t ∈ Int.range start (stop + 1) ↔ start ≤ t ∧ t ≤ stop := by
  rw [Int.mem_range_iff]
  omega

theorem pairwise_closedRange (start stop : Int) :
    (Int.range start (stop + 1)).Pairwise (· < ·) := by
  rw [Int.range]
  refine List.pairwise_map.2 (List.pairwise_lt_range.imp ?_)
  intro i j hij
  omega

section Congruence

variable [Quantity α] {clock : Clock} {request : Request α}

/-- A node value depends on the instants in its bucket. -/
theorem nodeValue_congr {data data' : Int → Option α} {b : Int}
    (h : ∀ t ∈ request.closedRange,
      bucketKey clock request.nodeResolution t = b → data t = data' t) :
    nodeValue clock request data b = nodeValue clock request data' b := by
  have hsame : ∀ t ∈ Int.range request.start (request.stop + 1),
      bucketKey clock request.nodeResolution t = b →
        request.padding.keep (data t) = request.padding.keep (data' t) := by
    intro t ht hb
    rw [h t (mem_closedRange.1 ht) hb]
  rw [nodeValue, nodeValue, Series.gather_congr hsame]

theorem combinedValue_congr {data data' : Entity → Int → Option α} {entities : List Entity}
    {b : Int} (h : ∀ e ∈ entities,
      nodeValue clock request (data e) b = nodeValue clock request (data' e) b) :
    combinedValue clock request data entities b = combinedValue clock request data' entities b := by
  have hsame : entities.filterMap (fun e => nodeValue clock request (data e) b) =
      entities.filterMap (fun e => nodeValue clock request (data' e) b) :=
    List.filterMap_congr h
  match entities with
  | [] => rfl
  | [e] => exact h e (List.mem_singleton_self e)
  | e :: f :: es =>
      rw [combinedValue_several, combinedValue_several, hsame]

/-- The answer depends on the node buckets that lie in a bucket of the result grid. -/
theorem answer_congr {data data' : Entity → Int → Option α} {entities : List Entity}
    (h : ∀ b ∈ bucketKeys clock request.nodeResolution request.start request.stop,
      bucketKey clock request.resultResolution b ∈
        bucketKeys clock request.resultResolution request.start request.stop →
      ∀ e ∈ entities, nodeValue clock request (data e) b = nodeValue clock request (data' e) b)
    (k : Int) : answer clock request data entities k = answer clock request data' entities k := by
  by_cases hk : k ∈ bucketKeys clock request.resultResolution request.start request.stop
  · have hsame : ∀ b ∈ bucketKeys clock request.nodeResolution request.start request.stop,
        bucketKey clock request.resultResolution b = k →
          combinedValue clock request data entities b =
            combinedValue clock request data' entities b := by
      intro b hb hbk
      refine combinedValue_congr (h b hb ?_)
      rw [hbk]
      exact hk
    rw [answer, answer, if_pos hk, if_pos hk, resultValue, resultValue, Series.gather_congr hsame]
  · rw [answer, answer, if_neg hk, if_neg hk]

end Congruence

end MetricQuery
