/-
  MetricQuery.Text.Ranges
  ───────────────────────
  **CLASSES OF CODE POINTS AS LISTS OF CLOSED RANGES.**

  A class is a list of pairs `(lo, hi)`, and a code point belongs to it when
  some pair encloses it.
-/
namespace MetricQuery.Text

/-- Some range of the list encloses `n`. -/
def inRanges (ranges : List (Nat × Nat)) (n : Nat) : Bool :=
  ranges.any fun r => r.1 ≤ n && n ≤ r.2

/-- The ranges are not empty, and each ends before the next begins. -/
def ascending : List (Nat × Nat) → Bool
  | r :: s :: rest => r.1 ≤ r.2 && r.2 < s.1 && ascending (s :: rest)
  | [r] => r.1 ≤ r.2
  | [] => true

/-- How many code points ranges that are apart from one another enclose. -/
def population (ranges : List (Nat × Nat)) : Nat :=
  ranges.foldl (fun n r => n + (r.2 + 1 - r.1)) 0

/-- **Membership is enclosure by one of the ranges.** -/
theorem inRanges_iff {ranges : List (Nat × Nat)} {n : Nat} :
    inRanges ranges n = true ↔ ∃ r ∈ ranges, r.1 ≤ n ∧ n ≤ r.2 := by
  simp [inRanges]

theorem inRanges_of_mem {ranges : List (Nat × Nat)} {r : Nat × Nat} {n : Nat}
    (hr : r ∈ ranges) (hlo : r.1 ≤ n) (hhi : n ≤ r.2) : inRanges ranges n = true :=
  inRanges_iff.2 ⟨r, hr, hlo, hhi⟩

end MetricQuery.Text
