/-
  MetricQuery.Toml.Reader
  ───────────────────────
  **READING TOML DOCUMENTS.**

  A document is read statement by statement, one on each line; arrays and
  strings may run over several lines.

    • `Toml.value?`   — a value,
    • `Toml.statement?` — a statement with its comment and the end of its line,
    • `Toml.parse?`   — the fields of a whole document.
-/
import MetricQuery.Toml.Lexical

namespace MetricQuery.Toml

open TomlText

/-! ## §1. Values. -/

/-- White space, comments and line ends from here on, as they stand between the items of an
array. -/
def skipGap : Nat → List Char → List Char
  | 0, cs => cs
  | fuel + 1, cs =>
      let cs := skipComment (cs.dropWhile isTomlBlank)
      match lineEnd? cs with
      | some rest => skipGap fuel rest
      | none => cs

/-- The items of an array up to its end.  A comma may follow the last one. -/
def items? (read : List Char → Option (Toml × List Char)) :
    Nat → List Char → Option (List Toml × List Char)
  | 0, _ => none
  | fuel + 1, cs =>
      match skipGap (cs.length + 1) cs with
      | ']' :: rest => some ([], rest)
      | cs =>
          match read cs with
          | none => none
          | some (item, rest) =>
              match skipGap (rest.length + 1) rest with
              | ',' :: rest => (items? read fuel rest).map fun (more, rest) => (item :: more, rest)
              | ']' :: rest => some ([item], rest)
              | _ => none

/-- A key and its value. -/
def assignment? (read : List Char → Option (Toml × List Char)) (cs : List Char) :
    Option (((List String × String) × Toml) × List Char) := do
  let (key, cs) ← tomlKey? cs
  let cs ← char? '=' cs
  let (v, cs) ← read (cs.dropWhile isTomlBlank)
  pure ((key, v), cs)

/-- The entries of an inline table up to its end, at least one. -/
def entries? (read : List Char → Option (Toml × List Char)) :
    Nat → List Char → Option (List ((List String × String) × Toml) × List Char)
  | 0, _ => none
  | fuel + 1, cs =>
      match assignment? read cs with
      | none => none
      | some (entry, rest) =>
          match rest.dropWhile isTomlBlank with
          | ',' :: rest =>
              (entries? read fuel rest).map fun (more, rest) => (entry :: more, rest)
          | '\x7d' :: rest => some ([entry], rest)
          | _ => none

/-- **A value.**  The first argument bounds how deeply arrays and inline tables nest. -/
def value? : Nat → List Char → Option (Toml × List Char)
  | 0, _ => none
  | depth + 1, cs =>
      match cs with
      -- The first character decides the kind.
      | '"' :: _ | '\'' :: _ => (tomlString? cs).map fun (s, rest) => (.string s, rest)
      | '[' :: rest =>
          if depth = 0 then none
          else
            (items? (value? depth) (rest.length + 1) rest).map fun (items, rest) =>
              (.array items, rest)
      | '\x7b' :: rest =>
          if depth = 0 then none
          else
            match rest.dropWhile isTomlBlank with
            | '\x7d' :: rest => some (.table .inline [], rest)
            | rest =>
                match entries? (value? depth) (rest.length + 1) rest with
                | some (entries, rest) => (inlineTable? entries).map fun t => (t, rest)
                | none => none
      | 't' :: rest => (Json.word? ['r', 'u', 'e'] rest).map fun rest => (.bool true, rest)
      | 'f' :: rest => (Json.word? ['a', 'l', 's', 'e'] rest).map fun rest => (.bool false, rest)
      | _ => tomlNumber? cs

/-! ## §2. Statements. -/

/-- What stands on a line before its comment. -/
def statementBody? (cs : List Char) : Option (Statement × List Char) :=
  match cs with
  | '[' :: '[' :: rest => do
      let ((path, key), rest) ← tomlKey? rest
      let rest ← char? ']' rest
      let rest ← char? ']' rest
      pure (.itemHeader path key, rest)
  | '[' :: rest => do
      let ((path, key), rest) ← tomlKey? rest
      let rest ← char? ']' rest
      pure (.header path key, rest)
  | '#' :: _ | '\n' :: _ | '\r' :: _ | [] => some (.blank, cs)
  | _ => do
      let (((path, key), v), rest) ← assignment? (value? depthLimit) cs
      pure (.assign path key v, rest)

/-- A statement, with its comment and the end of its line. -/
def statement? (cs : List Char) : Option (Statement × List Char) := do
  let (s, rest) ← statementBody? (cs.dropWhile isTomlBlank)
  let rest := skipComment (rest.dropWhile isTomlBlank)
  match rest with
  | [] => pure (s, [])
  | _ => (lineEnd? rest).map fun rest => (s, rest)

/-- All statements up to the end of the text. -/
def statements? : Nat → List Char → Option (List Statement)
  | 0, _ => none
  | _ + 1, [] => some []
  | fuel + 1, cs =>
      match statement? cs with
      | some (s, rest) => (statements? fuel rest).map fun more => s :: more
      | none => none

/-- **The fields of a document.**  A byte order mark at its beginning is passed over. -/
def parse? (text : String) : Option (List (String × Toml)) :=
  let cs := match text.toList with
    | '\uFEFF' :: rest => rest
    | cs => cs
  (statements? (cs.length + 1) cs).bind ofStatements?

end MetricQuery.Toml
