/-
  MetricQuery.Retrieval.Find
  ──────────────────────────
  **FETCHING THE SAMPLES OF ONE ENTITY.**

  Days are queried from the day of the start to the day of the end, and the
  values that lie between the two instants, both included, become a series.

    • `samplesBetween`  — the points of day buckets that hold a value in the range,
    • `find`            — the series of an entity, with its one query on record,
    • `SampleStore.afterRun` — a store that has counted the queries of a run.
-/
import MetricQuery.Pipeline.Run
import MetricQuery.Store.Samples

namespace MetricQuery

variable {α β : Type}

/-- The points of one day that hold a value. -/
def DayBucket.points (b : DayBucket α) : List (Int × α) :=
  b.samples.toList.filterMap fun (second, v) => v.map fun v => (instantOf b.day second, v)

/-- The points of day buckets that hold a value between `start` and `stop`, both included. -/
def samplesBetween (buckets : List (DayBucket α)) (start stop : Int) : List (Int × α) :=
  (buckets.flatMap DayBucket.points).filter fun p => start ≤ p.1 && p.1 ≤ stop

/-- **The series of an entity** between two instants, both included. -/
def find (source : SampleSource α) (e : Entity) (start stop : Int) : Run α (Series α) :=
  match source.query e (dayFloor start) (dayFloor stop) with
  | .ok buckets =>
      -- Days are answered whole; what lies outside the range is cut off here.
      (Run.record (.queried buckets.length)).bind fun _ =>
        .pure (Series.ofPoints (samplesBetween buckets start stop))
  | .error fault => .fail fault

/-- The store after a run that read from it. -/
def SampleStore.afterRun (s : SampleStore α) (r : Run α β) : SampleStore α :=
  r.events.foldl (fun s event =>
    match event with
    | .queried buckets => s.countQuery buckets
    | .finished _ _ => s) s

end MetricQuery
