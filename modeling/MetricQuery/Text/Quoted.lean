/-
  MetricQuery.Text.Quoted
  ───────────────────────
  **QUOTED TEXT IN MESSAGES.**

  A text inside a message stands between double quotes.  Quotes, backslashes and
  the common control characters are escaped with a backslash, and any other
  character without a visible form is spelled by its code point.

    • `quoted`       — one text,
    • `quotedPairs`  — a list of key and value pairs in braces.
-/
import MetricQuery.Text.Unprintable

namespace MetricQuery.Text

/-- How one character is written inside double quotes. -/
def escapeChar (c : Char) : String :=
  match c with
  | '\x00' => "\\0"
  | '\t' => "\\t"
  | '\n' => "\\n"
  | '\r' => "\\r"
  | '"' => "\\\""
  | '\\' => "\\\\"
  | c =>
      if isUnprintable c then
        "\\u\x7b" ++ String.ofList (Nat.toDigits 16 c.toNat) ++ "\x7d"
      else String.singleton c

/-- A text between double quotes. -/
def quoted (s : String) : String :=
  "\"" ++ String.join (s.toList.map escapeChar) ++ "\""

/-- Key and value pairs, in the order given, between braces. -/
def quotedPairs (pairs : List (String × String)) : String :=
  let entries := pairs.map fun (k, v) => quoted k ++ ": " ++ quoted v
  "\x7b" ++ String.intercalate ", " entries ++ "\x7d"

example : quotedPairs [] = "\x7b\x7d" := by decide +kernel
example : quotedPairs [("k", "a\"b"), ("m", "\n")] =
    "\x7b\"k\": \"a\\\"b\", \"m\": \"\\n\"\x7d" := by decide +kernel

/-- A combining mark is spelled by its code point; a halfwidth sound mark is a letter, and stays. -/
example : quoted "e\u0301\uff76\uff9e" = "\"e\\u\x7b301\x7d\uff76\uff9e\"" := by decide +kernel

end MetricQuery.Text
