/-
  MetricQuery.Text.Shortest
  ─────────────────────────
  **THE SHORTEST TEXT OF A FLOATING-POINT NUMBER.**

  A number is written with the fewest decimal digits that are read back as the
  same number, and of the numerals with so few digits with the nearest one.  The
  search works on the exact value `mantissa · 2 ^ exponent`: for each count of
  digits it tries the two neighbours of the value on that decimal grid.

    • `Dyadic.ofFloat`   — the exact value of a finite number's magnitude,
    • `shortestDecimal`  — the numeral that is chosen,
    • `floatText`        — sign, positional digits, and the words `inf` and `NaN`.
-/
import MetricQuery.Text.Decimal

namespace MetricQuery.Text

/-! ## §1. Exact values. -/

/-- The number `mantissa · 2 ^ exponent`. -/
structure Dyadic where
  mantissa : Nat
  exponent : Int
  deriving DecidableEq, Repr

namespace Dyadic

/-- The exact magnitude of a finite number, from its sign, exponent and fraction fields. -/
def ofFloat (x : Float) : Dyadic :=
  let bits := x.toBits.toNat
  let field := bits / Nat.pow 2 52 % Nat.pow 2 11
  let fraction := bits % Nat.pow 2 52
  if field = 0 then ⟨fraction, -1074⟩ else ⟨Nat.pow 2 52 + fraction, (field : Int) - 1075⟩

/-- The value divided by `10 ^ power`, as a fraction of naturals. -/
def ratio (v : Dyadic) (power : Int) : Nat × Nat :=
  (v.mantissa * Nat.pow 2 v.exponent.toNat * Nat.pow 10 (-power).toNat,
   Nat.pow 2 (-v.exponent).toNat * Nat.pow 10 power.toNat)

/-- The least `k` with the value below `10 ^ k`, for a positive value.  Below one it is read off
the length of the reciprocal: no negative power of ten is dyadic. -/
def magnitude (v : Dyadic) : Int :=
  let (num, den) := v.ratio 0
  if den ≤ num then (digitsOf (num / den)).length
  else 1 - (digitsOf (den / num)).length

/-- The two neighbours of the value on the grid of multiples of `10 ^ power`, the nearer first and
the upper first when both are equally near. -/
def neighbours (v : Dyadic) (power : Int) : List Decimal :=
  let (num, den) := v.ratio power
  let below := num / den
  if 2 * (num % den) < den then [⟨below, power⟩, ⟨below + 1, power⟩]
  else [⟨below + 1, power⟩, ⟨below, power⟩]

/-- The value as a numeral.  No digit is lost: `2 ^ k` divides `10 ^ k`. -/
def exact (v : Dyadic) : Decimal :=
  let power := min v.exponent 0
  let (num, den) := v.ratio power
  ⟨num / den, power⟩

end Dyadic

/-! ## §2. The search. -/

/-- Seventeen digits suffice for every number of the format. -/
def mostDigits : Nat := 17

/-- The first numeral of at most `mostDigits` digits that is read back as `x`, shorter ones first
and the nearer of two equally short ones first; the exact value if there is none. -/
def shortestDecimal (x : Float) : Decimal :=
  let v := Dyadic.ofFloat x
  let size := v.magnitude
  -- A numeral of `n + 1` digits lies on the grid that is so many places below the size.
  let candidates := (List.range mostDigits).flatMap fun n => v.neighbours (size - (n + 1 : Nat))
  match candidates.find? fun d => d.toFloat.toBits == x.toBits with
  | some d => d
  | none => v.exact

/-- **The text of a number:** its sign, then the shortest positional digits that are read back as
it.  The word for an undefined number carries no sign. -/
def floatText (x : Float) : String :=
  if x.isNaN then "NaN"
  else
    let negative := x.toBits.toNat ≥ Nat.pow 2 63
    let magnitude := x.abs
    let body :=
      if magnitude.isInf then "inf"
      else if magnitude == 0 then "0"
      else (shortestDecimal magnitude).positional
    if negative then "-" ++ body else body

example : floatText 0.1 = "0.1" := by decide +kernel
example : floatText 1e21 = "1000000000000000000000" := by decide +kernel
example : floatText (-1e-7) = "-0.0000001" := by decide +kernel
example : floatText 5e-324 = Decimal.positional ⟨5, -324⟩ := by decide +kernel

end MetricQuery.Text
