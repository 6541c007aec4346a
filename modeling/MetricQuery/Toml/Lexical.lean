/-
  MetricQuery.Toml.Lexical
  ────────────────────────
  **THE LEXICAL PARTS OF TOML.**

  Keys, strings of four kinds, numbers in four bases, dates and times.  Each
  reader takes what it recognises from the beginning of the text and returns it
  with what follows.

    • `tomlKey?`     — a dotted key,
    • `tomlString?`  — a string between one or three quotes of either kind,
    • `tomlNumber?`  — a date, a time, a floating-point number or an integer.
-/
import MetricQuery.Json.Reader
import MetricQuery.Toml.Value

namespace MetricQuery.TomlText

open Text

/-! ## §1. Characters. -/

/-- White space inside a line. -/
def isTomlBlank (c : Char) : Bool :=
  c == ' ' || c == '\t'

/-- A character that may stand in a comment or a string: no control character but the tab. -/
def isPrintable (c : Char) : Bool :=
  c == '\t' || (0x20 ≤ c.toNat && c.toNat != 0x7F)

/-- A character of a key without quotes. -/
def isBare (c : Char) : Bool :=
  c.isAlphanum || c == '_' || c == '-'

/-- The end of a line, if there is one here. -/
def lineEnd? : List Char → Option (List Char)
  | '\n' :: rest => some rest
  | '\r' :: '\n' :: rest => some rest
  | _ => none

/-- A comment, if there is one here, up to the end of its line. -/
def skipComment (cs : List Char) : List Char :=
  match cs with
  | '#' :: rest => rest.dropWhile isPrintable
  | _ => cs

/-! ## §2. Strings. -/

/-- The character of an escape after its backslash. -/
def escape? (cs : List Char) : Option (Char × List Char) :=
  let coded (n : Nat) (rest : List Char) : Option (Char × List Char) :=
    match Json.hexValue? (rest.take n) with
    | some code =>
        if (rest.take n).length = n ∧ code.isValidChar then
          some (Char.ofNat code, rest.drop n)
        else none
    | none => none
  match cs with
  | 'b' :: rest => some ('\x08', rest)
  | 't' :: rest => some ('\t', rest)
  | 'n' :: rest => some ('\n', rest)
  | 'f' :: rest => some ('\x0c', rest)
  | 'r' :: rest => some ('\r', rest)
  | '"' :: rest => some ('"', rest)
  | '\\' :: rest => some ('\\', rest)
  | 'u' :: rest => coded 4 rest
  | 'U' :: rest => coded 8 rest
  | _ => none

/-- A string on one line, after its opening quote.  Escapes count between double quotes only.  The
first argument bounds the number of characters. -/
def oneLine? (quote : Char) : Nat → List Char → Option (List Char × List Char)
  | 0, _ => none
  | _ + 1, [] => none
  | fuel + 1, c :: rest =>
      if c = quote then some ([], rest)
      else if c = '\\' ∧ quote = '"' then
        match escape? rest with
        | some (ch, rest) => (oneLine? quote fuel rest).map fun (s, rest) => (ch :: s, rest)
        | none => none
      else if isPrintable c then
        (oneLine? quote fuel rest).map fun (s, rest) => (c :: s, rest)
      else none

/-- White space and line ends from here on. -/
def skipLines : Nat → List Char → List Char
  | 0, cs => cs
  | fuel + 1, cs =>
      let cs := cs.dropWhile isTomlBlank
      match lineEnd? cs with
      | some rest => skipLines fuel rest
      | none => cs

/-- A string over several lines, after its three opening quotes and the line end that may follow
them.  One or two quotes may stand before the three that close it, and a backslash at the end of a
line joins it to the next text. -/
def manyLines? (quote : Char) : Nat → List Char → Option (List Char × List Char)
  | 0, _ => none
  | fuel + 1, cs =>
      let more (c : Char) (rest : List Char) : Option (List Char × List Char) :=
        (manyLines? quote fuel rest).map fun (s, rest) => (c :: s, rest)
      match cs with
      | [] => none
      | c :: rest =>
          if c = quote then
            let run := (c :: rest).takeWhile fun d => d == quote
            -- Three quotes close the string, and up to two before them belong to it.
            if run.length < 3 then more c rest
            else if run.length ≤ 5 then
              some (run.drop 3, rest.drop (run.length - 1))
            else none
          else if c = '\\' ∧ quote = '"' then
            -- A backslash that ends a line takes the blanks that follow with it.
            match lineEnd? (rest.dropWhile isTomlBlank) with
            | some after => manyLines? quote fuel (skipLines after.length after)
            | none =>
                match escape? rest with
                | some (ch, rest) => more ch rest
                | none => none
          else
            match lineEnd? (c :: rest) with
            | some rest => more '\n' rest
            | none => if isPrintable c then more c rest else none

/-- A string of any kind. -/
def tomlString? (cs : List Char) : Option (String × List Char) :=
  let several (quote : Char) (rest : List Char) : Option (String × List Char) :=
    let body := (lineEnd? rest).getD rest
    (manyLines? quote (body.length + 1) body).map fun (s, rest) => (String.ofList s, rest)
  let single (quote : Char) (rest : List Char) : Option (String × List Char) :=
    (oneLine? quote (rest.length + 1) rest).map fun (s, rest) => (String.ofList s, rest)
  match cs with
  | '"' :: '"' :: '"' :: rest => several '"' rest
  | '\'' :: '\'' :: '\'' :: rest => several '\'' rest
  | '"' :: rest => single '"' rest
  | '\'' :: rest => single '\'' rest
  | _ => none

/-! ## §3. Keys. -/

/-- One part of a key: bare, or a string on one line. -/
def keyPart? (cs : List Char) : Option (String × List Char) :=
  match cs with
  | '"' :: rest => (oneLine? '"' (rest.length + 1) rest).map fun (s, r) => (String.ofList s, r)
  | '\'' :: rest => (oneLine? '\'' (rest.length + 1) rest).map fun (s, r) => (String.ofList s, r)
  | _ =>
      let bare := cs.takeWhile isBare
      if bare.isEmpty then none else some (String.ofList bare, cs.dropWhile isBare)

/-- The parts of a dotted key, with white space around the dots, at most so many. -/
def keyParts? : Nat → List Char → Option (List String × List Char)
  | 0, _ => none
  | fuel + 1, cs =>
      match keyPart? (cs.dropWhile isTomlBlank) with
      | none => none
      | some (part, rest) =>
          match rest.dropWhile isTomlBlank with
          | '.' :: rest => (keyParts? fuel rest).map fun (parts, rest) => (part :: parts, rest)
          | rest => some ([part], rest)

/-- Keys have fewer parts, and arrays and inline tables nest less deeply, than this. -/
def depthLimit : Nat := 80

/-- **A key:** the path that leads to it, its own name, and what follows. -/
def tomlKey? (cs : List Char) : Option ((List String × String) × List Char) :=
  match keyParts? (depthLimit - 1) cs with
  | some (parts, rest) => parts.getLast?.map fun key => ((parts.dropLast, key), rest)
  | none => none

/-! ## §4. Numbers. -/

/-- Digits of a base with single underscores between them, without the underscores. -/
def digitRun (isMember : Char → Bool) : List Char → List Char × List Char
  | '_' :: c :: rest =>
      if isMember c then
        let (ds, rest) := digitRun isMember rest
        (c :: ds, rest)
      else ([], '_' :: c :: rest)
  | c :: rest =>
      if isMember c then
        let (ds, rest) := digitRun isMember rest
        (c :: ds, rest)
      else ([], c :: rest)
  | [] => ([], [])

/-- Digits of a base, at least one, the first of them without an underscore before it. -/
def digits? (isMember : Char → Bool) (cs : List Char) : Option (List Char × List Char) :=
  match cs with
  | c :: rest =>
      if isMember c then
        let (ds, rest) := digitRun isMember rest
        some (c :: ds, rest)
      else none
  | [] => none

/-- The sign of a number, if there is one, and whether it is negative. -/
def sign (cs : List Char) : Bool × List Char :=
  match cs with
  | '-' :: rest => (true, rest)
  | '+' :: rest => (false, rest)
  | _ => (false, cs)

/-- The digits of a decimal whole part: no zero stands before another digit. -/
def wholePart? (cs : List Char) : Option (List Char × List Char) :=
  match cs with
  | '0' :: rest => some (['0'], rest)
  | _ => digits? isDigit cs

/-- An integer that fits into 64 bits. -/
def integerOf? (n : Int) : Option Toml :=
  if -9223372036854775808 ≤ n ∧ n ≤ 9223372036854775807 then some (.integer n) else none

/-- An integer in the base of its two-character mark. -/
def basedInteger? (cs : List Char) : Option (Toml × List Char) :=
  let read (base : Nat) (isMember : Char → Bool) (rest : List Char) :
      Option (Toml × List Char) := do
    let (ds, rest) ← digits? isMember rest
    let n := ds.foldl (fun acc c => base * acc + (Json.hexDigit? c).getD 0) 0
    let v ← integerOf? n
    pure (v, rest)
  match cs with
  | '0' :: 'x' :: rest => read 16 (fun c => (Json.hexDigit? c).isSome) rest
  | '0' :: 'o' :: rest => read 8 (fun c => '0' ≤ c && c ≤ '7') rest
  | '0' :: 'b' :: rest => read 2 (fun c => c == '0' || c == '1') rest
  | _ => none

/-- The power of ten after an exponent mark. -/
def power? (cs : List Char) : Option (Int × List Char) :=
  match cs with
  | 'e' :: rest | 'E' :: rest =>
      let (negative, rest) := sign rest
      (digits? isDigit rest).map fun (ds, rest) =>
        let n : Int := digitsValue ds
        (if negative then -n else n, rest)
  | _ => none

/-- A decimal number with its sign.  A fraction or an exponent makes it a floating-point number,
which must not overflow upwards. -/
def decimal? (cs : List Char) : Option (Toml × List Char) := do
  let (negative, cs) := sign cs
  let (whole, cs) ← wholePart? cs
  let floating (fraction : List Char) (power : Int) (rest : List Char) :
      Option (Toml × List Char) :=
    let d := Decimal.ofParts whole fraction
    let x := Decimal.toFloat ⟨d.digits, d.exponent + power⟩
    let x := if negative then -x else x
    if x == 1.0 / 0.0 then none else some (.float x, rest)
  match cs with
  | '.' :: rest =>
      let (fraction, rest) ← digits? isDigit rest
      match rest with
      | 'e' :: _ | 'E' :: _ =>
          let (power, rest) ← power? rest
          floating fraction power rest
      | _ => floating fraction 0 rest
  | 'e' :: _ | 'E' :: _ =>
      let (power, rest) ← power? cs
      floating [] power rest
  | _ =>
      let n : Int := digitsValue whole
      let v ← integerOf? (if negative then -n else n)
      pure (v, cs)

/-- A number that is written as a word, with its sign. -/
def wordNumber? (cs : List Char) : Option (Toml × List Char) :=
  let (negative, cs) := sign cs
  match cs with
  | 'i' :: 'n' :: 'f' :: rest => some (.float (if negative then -1.0 / 0.0 else 1.0 / 0.0), rest)
  | 'n' :: 'a' :: 'n' :: rest => some (.float (0.0 / 0.0), rest)
  | _ => none

/-! ## §5. Dates and times. -/

/-- Exactly so many digits, as a number between the bounds. -/
def fixedDigits? (count lo hi : Nat) (cs : List Char) : Option (Nat × List Char) :=
  let ds := cs.take count
  let n := digitsValue ds
  if ds.length = count ∧ ds.all isDigit ∧ lo ≤ n ∧ n ≤ hi then some (n, cs.drop count) else none

/-- A given character, taken off. -/
def char? (c : Char) (cs : List Char) : Option (List Char) :=
  match cs with
  | d :: rest => if c = d then some rest else none
  | [] => none

/-- The number of days of a month. -/
def daysInMonth (year month : Nat) : Nat :=
  match month with
  | 2 => if year % 4 = 0 ∧ (year % 100 ≠ 0 ∨ year % 400 = 0) then 29 else 28
  | 4 | 6 | 9 | 11 => 30
  | _ => 31

/-- A date, taken off. -/
def date? (cs : List Char) : Option (List Char) := do
  let (year, cs) ← fixedDigits? 4 0 9999 cs
  let cs ← char? '-' cs
  let (month, cs) ← fixedDigits? 2 1 12 cs
  let cs ← char? '-' cs
  let (_, cs) ← fixedDigits? 2 1 (daysInMonth year month) cs
  pure cs

/-- A time of day, taken off. -/
def time? (cs : List Char) : Option (List Char) := do
  let (_, cs) ← fixedDigits? 2 0 23 cs
  let cs ← char? ':' cs
  let (_, cs) ← fixedDigits? 2 0 59 cs
  let cs ← char? ':' cs
  let (_, cs) ← fixedDigits? 2 0 60 cs
  match cs with
  | '.' :: rest =>
      if (rest.takeWhile isDigit).isEmpty then none else some (rest.dropWhile isDigit)
  | _ => some cs

/-- The offset of a time from universal time, taken off if there is one. -/
def offset? (cs : List Char) : Option (List Char) :=
  let numeric (rest : List Char) : Option (List Char) := do
    let (_, rest) ← fixedDigits? 2 0 23 rest
    let rest ← char? ':' rest
    let (_, rest) ← fixedDigits? 2 0 59 rest
    pure rest
  match cs with
  | 'Z' :: rest | 'z' :: rest => some rest
  | '+' :: rest | '-' :: rest => numeric rest
  | _ => some cs

/-- A date, a time, or both with or without an offset, taken off. -/
def datetime? (cs : List Char) : Option (List Char) :=
  match date? cs with
  | some rest =>
      match rest with
      | c :: after =>
          if c = 'T' ∨ c = 't' ∨ c = ' ' then
            match time? after with
            | some after => offset? after
            | none => if c = ' ' then some rest else none
          else some rest
      | [] => some rest
  | none => time? cs

/-- **A date, a time or a number.** -/
def tomlNumber? (cs : List Char) : Option (Toml × List Char) :=
  match datetime? cs with
  | some rest => some (.datetime, rest)
  | none => (wordNumber? cs).or ((basedInteger? cs).or (decimal? cs))

end MetricQuery.TomlText
