/-
  MetricQuery.Text.Decimal
  ────────────────────────
  **DECIMAL NUMERALS.**

  A numeral is a natural number scaled by a power of ten.  This module holds its
  value as a floating-point number, its positional text (never an exponent), and
  the reading of digit strings.

    • `Decimal.toFloat`       — the nearest floating-point number,
    • `Decimal.positional`    — `1500` and `0.0000001`, no trailing zero after the point,
    • `digitsFrom_append`     — digits are read from left to right.
-/
namespace MetricQuery.Text

/-! ## §1. Digits. -/

/-- An ASCII decimal digit. -/
def isDigit (c : Char) : Bool :=
  '0' ≤ c && c ≤ '9'

/-- The value of a decimal digit. -/
def digitValue (c : Char) : Nat :=
  c.toNat - '0'.toNat

/-- The number that a run of decimal digits spells, continuing from `n`. -/
def digitsFrom (n : Nat) (cs : List Char) : Nat :=
  cs.foldl (fun acc c => 10 * acc + digitValue c) n

/-- The number that a run of decimal digits spells. -/
def digitsValue (cs : List Char) : Nat :=
  digitsFrom 0 cs

/-- The decimal digits of a number, most significant first. -/
def digitsOf (n : Nat) : List Char :=
  Nat.toDigits 10 n

theorem digitsFrom_append (n : Nat) (xs ys : List Char) :
    digitsFrom n (xs ++ ys) = digitsFrom (digitsFrom n xs) ys := by
  simp [digitsFrom]

/-! ## §2. Numerals. -/

/-- The number `digits · 10 ^ exponent`. -/
structure Decimal where
  digits : Nat
  exponent : Int
  deriving DecidableEq, Repr

namespace Decimal

/-- The numeral of the digits `whole` before a point and `fraction` after it. -/
def ofParts (whole fraction : List Char) : Decimal :=
  ⟨digitsValue (whole ++ fraction), -fraction.length⟩

/-- Beyond this power of ten every nonzero number is infinite. -/
def largestPower : Int := 310

/-- Below this power of ten every number rounds to zero. -/
def smallestPower : Int := -330

/-- The nearest floating-point number.  Numerals out of the range of the format are settled by
their size alone, so that no huge power of ten is ever formed. -/
def toFloat (d : Decimal) : Float :=
  if d.digits = 0 then 0
  else
    let size := (digitsOf d.digits).length + d.exponent
    if size > largestPower then 1.0 / 0.0
    else if size < smallestPower then 0
    else Float.ofScientific d.digits (d.exponent < 0) d.exponent.natAbs

/-- The same number without zeros at the end of its fraction. -/
def trimFraction (digits : Nat) : Nat → Decimal
  | 0 => ⟨digits, 0⟩
  | places + 1 =>
      if digits % 10 = 0 then trimFraction (digits / 10) places
      else ⟨digits, -(places + 1)⟩

/-- Digits with `places` of them after the point, padded with zeros on the left. -/
def pointed (digits places : Nat) : String :=
  if places = 0 then String.ofList (digitsOf digits)
  else
    let cs := digitsOf digits
    let cs := List.replicate (places + 1 - cs.length) '0' ++ cs
    String.ofList (cs.take (cs.length - places) ++ '.' :: cs.drop (cs.length - places))

/-- Positional text: no exponent, and no zero at the end of a fraction. -/
def positional (d : Decimal) : String :=
  match d.exponent with
  | .ofNat zeros => String.ofList (digitsOf d.digits ++ List.replicate zeros '0')
  | .negSucc p =>
      let t := trimFraction d.digits (p + 1)
      pointed t.digits t.exponent.natAbs

example : positional ⟨15, 2⟩ = "1500" := by decide +kernel
example : positional ⟨1, -7⟩ = "0.0000001" := by decide +kernel
example : positional ⟨1250, -3⟩ = "1.25" := by decide +kernel

end Decimal
end MetricQuery.Text
