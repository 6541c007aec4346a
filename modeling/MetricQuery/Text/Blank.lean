/-
  MetricQuery.Text.Blank
  ──────────────────────
  **WHITE SPACE.**

  The twenty-five characters with the Unicode property `White_Space`: what may
  stand between the tokens of a formula.
-/
import MetricQuery.Text.Ranges

namespace MetricQuery.Text

/-- The code points of the class, ascending. -/
def blankRanges : List (Nat × Nat) :=
  [(0x09, 0x0D), (0x20, 0x20), (0x85, 0x85), (0xA0, 0xA0), (0x1680, 0x1680), (0x2000, 0x200A),
   (0x2028, 0x2029), (0x202F, 0x202F), (0x205F, 0x205F), (0x3000, 0x3000)]

/-- White space of any script. -/
def isBlank (c : Char) : Bool :=
  inRanges blankRanges c.toNat

/-- The class has twenty-five members. -/
example : ascending blankRanges = true ∧ population blankRanges = 25 := by decide

end MetricQuery.Text
