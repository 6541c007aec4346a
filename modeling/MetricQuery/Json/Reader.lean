/-
  MetricQuery.Json.Reader
  ───────────────────────
  **READING JSON TEXT.**

  The grammar is that of JSON documents.  A number without fraction and exponent
  is an integer if it fits into 64 bits, signed or not; every other number, and
  minus zero, is a floating-point number.

    • `Json.parse?`       — the value of a whole text,
    • `Json.integerText?` — the integer of a key, in the grammar of JSON numbers.
-/
import MetricQuery.Json.Value
import MetricQuery.Text.Decimal

namespace MetricQuery.Json

open Text

/-! ## §1. Strings. -/

/-- White space between the parts of a document. -/
def isJsonBlank (c : Char) : Bool :=
  c == ' ' || c == '\t' || c == '\n' || c == '\r'

/-- The value of a hexadecimal digit. -/
def hexDigit? (c : Char) : Option Nat :=
  if isDigit c then some (digitValue c)
  else if 'a' ≤ c && c ≤ 'f' then some (c.toNat - 'a'.toNat + 10)
  else if 'A' ≤ c && c ≤ 'F' then some (c.toNat - 'A'.toNat + 10)
  else none

/-- The value of a run of hexadecimal digits. -/
def hexValue? (cs : List Char) : Option Nat :=
  cs.foldlM (fun acc c => (hexDigit? c).map (16 * acc + ·)) 0

/-- The character that is escaped by a single letter. -/
def unescape? (c : Char) : Option Char :=
  match c with
  | '"' => some '"'
  | '\\' => some '\\'
  | '/' => some '/'
  | 'b' => some '\x08'
  | 'f' => some '\x0c'
  | 'n' => some '\n'
  | 'r' => some '\r'
  | 't' => some '\t'
  | _ => none

/-- The character of two halves of a pair, if they are one. -/
def paired? (high low : Nat) : Option Char :=
  if 0xD800 ≤ high ∧ high < 0xDC00 ∧ 0xDC00 ≤ low ∧ low < 0xE000 then
    some (Char.ofNat (0x10000 + (high - 0xD800) * 0x400 + (low - 0xDC00)))
  else none

/-- The character of a code that is no half of a pair. -/
def unpaired? (code : Nat) : Option Char :=
  if 0xD800 ≤ code ∧ code < 0xE000 then none else some (Char.ofNat code)

/-- A string after its opening quote, up to the closing one, and what follows. -/
def stringBody? : List Char → Option (List Char × List Char)
  | '"' :: rest => some ([], rest)
  | '\\' :: 'u' :: a :: b :: c :: d :: rest =>
      match hexValue? [a, b, c, d] with
      | none => none
      | some code =>
          match unpaired? code with
          | some ch => (stringBody? rest).map fun (s, rest) => (ch :: s, rest)
          | none =>
              -- One half of a pair needs the other.
              match rest with
              | '\\' :: 'u' :: e :: f :: g :: h :: rest =>
                  match (hexValue? [e, f, g, h]).bind (paired? code) with
                  | some ch => (stringBody? rest).map fun (s, rest) => (ch :: s, rest)
                  | none => none
              | _ => none
  | '\\' :: c :: rest =>
      match unescape? c with
      | some ch => (stringBody? rest).map fun (s, rest) => (ch :: s, rest)
      | none => none
  | c :: rest =>
      if c.toNat < 0x20 then none else (stringBody? rest).map fun (s, rest) => (c :: s, rest)
  | [] => none

/-! ## §2. Numbers. -/

/-- The digits of a whole part: no zero stands before another digit. -/
def wholeDigits? (cs : List Char) : Option (List Char × List Char) :=
  match cs with
  | '0' :: rest => some (['0'], rest)
  | _ =>
      let digits := cs.takeWhile isDigit
      if digits.isEmpty then none else some (digits, cs.dropWhile isDigit)

/-- The digits of a fraction after a point, if there is a point. -/
def fractionDigits? (cs : List Char) : Option (List Char × List Char) :=
  match cs with
  | '.' :: rest =>
      let digits := rest.takeWhile isDigit
      if digits.isEmpty then none else some (digits, rest.dropWhile isDigit)
  | _ => some ([], cs)

/-- The power of ten after an exponent mark; nothing if there is no mark. -/
def exponent? (cs : List Char) : Option (Option Int × List Char) :=
  let digits (negative : Bool) (cs : List Char) : Option (Option Int × List Char) :=
    let ds := cs.takeWhile isDigit
    if ds.isEmpty then none
    else
      let n : Int := digitsValue ds
      some (some (if negative then -n else n), cs.dropWhile isDigit)
  let marked (cs : List Char) : Option (Option Int × List Char) :=
    match cs with
    | '-' :: rest => digits true rest
    | '+' :: rest => digits false rest
    | _ => digits false cs
  match cs with
  | 'e' :: rest | 'E' :: rest => marked rest
  | _ => some (none, cs)

/-- An integer that fits into 64 bits, or the nearest floating-point number. -/
def ofInteger (negative : Bool) (digits : List Char) : Json :=
  let n : Int := digitsValue digits
  let n := if negative then -n else n
  if negative ∧ n = 0 then .number (-0.0)
  else if -9223372036854775808 ≤ n ∧ n ≤ 18446744073709551615 then .integer n
  else
    let x := Decimal.toFloat ⟨n.natAbs, 0⟩
    .number (if negative then -x else x)

/-- A number and what follows it. -/
def number? (cs : List Char) : Option (Json × List Char) := do
  let (negative, cs) := match cs with
    | '-' :: rest => (true, rest)
    | _ => (false, cs)
  let (whole, cs) ← wholeDigits? cs
  let (fraction, cs) ← fractionDigits? cs
  let (power, cs) ← exponent? cs
  if fraction.isEmpty ∧ power.isNone then
    some (ofInteger negative whole, cs)
  else
    let d := Decimal.ofParts whole fraction
    let x := Decimal.toFloat ⟨d.digits, d.exponent + power.getD 0⟩
    some (.number (if negative then -x else x), cs)

/-- The integer that a text spells, in the grammar of JSON integers: no plus sign, no zero before
another digit, and no minus zero. -/
def integerText? (s : String) : Option Int :=
  match number? s.toList with
  | some (.integer n, []) => some n
  | _ => none

/-! ## §3. Documents. -/

/-- The word at the beginning, taken off. -/
def word? (word : List Char) (cs : List Char) : Option (List Char) :=
  if word.isPrefixOf cs then some (cs.drop word.length) else none

mutual

/-- A value and what follows it.  The first argument bounds the number of values to be read. -/
def value? : Nat → List Char → Option (Json × List Char)
  | 0, _ => none
  | fuel + 1, cs =>
      match cs.dropWhile isJsonBlank with
      | '"' :: rest => (stringBody? rest).map fun (s, rest) => (.string (String.ofList s), rest)
      | '[' :: rest =>
          match rest.dropWhile isJsonBlank with
          | ']' :: rest => some (.array [], rest)
          | rest => (items? fuel rest).map fun (items, rest) => (.array items, rest)
      | '\x7b' :: rest =>
          match rest.dropWhile isJsonBlank with
          | '\x7d' :: rest => some (.object [], rest)
          | rest => (members? fuel rest).map fun (fields, rest) => (.ofFields fields, rest)
      | 't' :: rest => (word? ['r', 'u', 'e'] rest).map fun rest => (.bool true, rest)
      | 'f' :: rest => (word? ['a', 'l', 's', 'e'] rest).map fun rest => (.bool false, rest)
      | 'n' :: rest => (word? ['u', 'l', 'l'] rest).map fun rest => (.null, rest)
      | rest => number? rest

/-- The items of an array up to its end, at least one. -/
def items? : Nat → List Char → Option (List Json × List Char)
  | 0, _ => none
  | fuel + 1, cs =>
      match value? fuel cs with
      | none => none
      | some (item, rest) =>
          match rest.dropWhile isJsonBlank with
          | ',' :: rest => (items? fuel rest).map fun (items, rest) => (item :: items, rest)
          | ']' :: rest => some ([item], rest)
          | _ => none

/-- The fields of an object up to its end, at least one. -/
def members? : Nat → List Char → Option (List (String × Json) × List Char)
  | 0, _ => none
  | fuel + 1, cs =>
      match cs.dropWhile isJsonBlank with
      | '"' :: rest =>
          match stringBody? rest with
          | none => none
          | some (key, rest) =>
              match rest.dropWhile isJsonBlank with
              | ':' :: rest =>
                  match value? fuel rest with
                  | none => none
                  | some (v, rest) =>
                      let field := (String.ofList key, v)
                      match rest.dropWhile isJsonBlank with
                      | ',' :: rest =>
                          (members? fuel rest).map fun (fields, rest) => (field :: fields, rest)
                      | '\x7d' :: rest => some ([field], rest)
                      | _ => none
              | _ => none
      | _ => none

end

/-- **The value of a text,** if the whole of it is one document. -/
def parse? (text : String) : Option Json :=
  let cs := text.toList
  match value? (cs.length + 1) cs with
  | some (v, rest) => if rest.all isJsonBlank then some v else none
  | none => none

end MetricQuery.Json
