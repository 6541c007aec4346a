/-
  MetricQuery.Series.Reduce
  ─────────────────────────
  **GROUPING POINTS BY KEY AND REDUCING EACH GROUP.**

  Both kinds of rollup are the same operation: points are sent to keys, points
  with a missing value are left out, and the values that meet at a key are
  reduced in the order in which they come.

    • `Series.reduceByKey`          — the operation on a list of keyed values,
    • `getElem?_reduceByKey`        — the value at a key is the reduction of its group,
    • `Series.rollup`               — over time: the key is the bucket of the instant,
    • `Series.combine`              — over several series: the key is the instant.
-/
import MetricQuery.Aggregation
import MetricQuery.Series.Basic
import MetricQuery.Time.Bucket

namespace MetricQuery.Series

variable {α : Type} [Quantity α]

/-! ## §1. Groups. -/

/-- The values that come with the key `k`, in order. -/
def groupAt (entries : List (Int × α)) (k : Int) : List α :=
  (entries.filter fun p => p.1 == k).map Prod.snd

/-- One more keyed value joins the tally of its key. -/
def tallyEntry (agg : Aggregation) (tallies : Std.ExtTreeMap Int (Tally α)) (p : Int × α) :
    Std.ExtTreeMap Int (Tally α) :=
  tallies.alter p.1 fun t => some ((t.getD Tally.empty).add agg p.2)

/-- **The reduction of every group.** -/
def reduceByKey (agg : Aggregation) (entries : List (Int × α)) : Series α :=
  (entries.foldl (tallyEntry agg) ∅).filterMap fun _ t => t.value agg

theorem getElem?_foldl_tallyEntry (agg : Aggregation) (entries : List (Int × α))
    (tallies : Std.ExtTreeMap Int (Tally α)) (k : Int) :
    (entries.foldl (tallyEntry agg) tallies)[k]? =
      if groupAt entries k = [] then tallies[k]?
      else some ((groupAt entries k).foldl (Tally.add agg) (tallies[k]?.getD Tally.empty)) := by
  induction entries generalizing tallies with
  | nil => rfl
  | cons p entries ih =>
      rw [List.foldl_cons, ih, tallyEntry, Std.ExtTreeMap.getElem?_alter]
      by_cases hp : p.1 = k
      · subst hp
        have hg : groupAt (p :: entries) p.1 = p.2 :: groupAt entries p.1 := by simp [groupAt]
        rw [hg]
        by_cases he : groupAt entries p.1 = [] <;> simp [he]
      · have hg : groupAt (p :: entries) k = groupAt entries k := by simp [groupAt, hp]
        simp [hg, hp]

/-- **The value at a key is the reduction of the values that come with it,** and a key with none
has no value. -/
theorem getElem?_reduceByKey (agg : Aggregation) (entries : List (Int × α)) (k : Int) :
    (reduceByKey agg entries)[k]? = agg.reduce (groupAt entries k) := by
  rw [reduceByKey, Std.ExtTreeMap.getElem?_filterMap', getElem?_foldl_tallyEntry]
  by_cases h : groupAt entries k = []
  · simp [h]
  · simp [h, Aggregation.reduce]

/-! ## §2. Rollups. -/

/-- Over time: the values of a bucket become the value at its key. -/
def rollup (clock : Clock) (r : Resolution) (agg : Aggregation) (pad : Padding α)
    (s : Series α) : Series α :=
  reduceByKey agg ((s.presentPoints pad).map fun p => (bucketKey clock r p.1, p.2))

/-- Over several series: the values at an instant become one value, in the order of the series. -/
def combine (agg : Aggregation) (pad : Padding α) (list : List (Series α)) : Series α :=
  reduceByKey agg (list.flatMap fun s => s.presentPoints pad)

end MetricQuery.Series
