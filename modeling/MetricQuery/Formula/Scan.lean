/-
  MetricQuery.Formula.Scan
  ────────────────────────
  **FROM CHARACTERS TO TOKENS.**

  White space separates tokens and is skipped.  A punctuation mark is a token by
  itself; a number is the longest run of digits, with a fraction if digits
  follow the point; an identifier is the longest run of letters, digits and
  underscores.  Any other character stops the scan where it stands.

    • `nextLexeme`          — what a text without leading white space starts with,
    • `nextLexeme_append`   — a lexeme and its rest are the text that was read,
    • `scan`                — one token, its position and the rest,
    • `scan_shorter`        — a token takes at least one character,
    • `Scanned.ofText`      — the whole stream: tokens, and where and why it ends,
    • `tokenize`            — the tokens with the end token, or the failure.
-/
import MetricQuery.Fault
import MetricQuery.Formula.Token
import MetricQuery.Text.Alphanumeric
import MetricQuery.Text.Blank
import MetricQuery.Text.Decimal

namespace MetricQuery

open Text

/-! ## §1. Lexemes. -/

/-- The bytes that characters take up. -/
def byteCount (cs : List Char) : Nat :=
  cs.foldl (fun n c => n + c.utf8Size) 0

/-- A letter, a digit or an underscore. -/
def isWordChar (c : Char) : Bool :=
  isAlphanumeric c || c == '_'

/-- The kind of a punctuation mark. -/
def punctuation? (c : Char) : Option TokenKind :=
  match c with
  | '+' | '-' | '*' | '/' => some .operator
  | '[' => some .openBracket
  | ']' => some .closeBracket
  | '(' => some .openParen
  | ')' => some .closeParen
  | ',' => some .comma
  | '=' => some .equals
  | _ => none

/-- The longest number at the beginning, and what follows it. -/
def splitNumber (cs : List Char) : List Char × List Char :=
  let whole := cs.takeWhile isDigit
  match cs.dropWhile isDigit with
  | '.' :: rest =>
      let fraction := rest.takeWhile isDigit
      if fraction.isEmpty then (whole, '.' :: rest)
      else (whole ++ '.' :: fraction, rest.dropWhile isDigit)
  | rest => (whole, rest)

/-- A lexeme: its kind, its characters and what follows it. -/
structure Lexeme where
  kind : TokenKind
  text : List Char
  rest : List Char

/-- What a text that does not start with white space starts with; nothing if its first character
begins no token. -/
def nextLexeme (c : Char) (cs : List Char) : Option Lexeme :=
  match punctuation? c with
  | some kind => some ⟨kind, [c], cs⟩
  | none =>
      if isDigit c then
        let (text, rest) := splitNumber (c :: cs)
        some ⟨.number, text, rest⟩
      else if isWordChar c then
        some ⟨.identifier, c :: cs.takeWhile isWordChar, cs.dropWhile isWordChar⟩
      else none

theorem splitNumber_append (cs : List Char) :
    (splitNumber cs).1 ++ (splitNumber cs).2 = cs := by
  have h := List.takeWhile_append_dropWhile (p := isDigit) (l := cs)
  unfold splitNumber
  split
  · rename_i rest hd
    rw [hd] at h
    have hf := List.takeWhile_append_dropWhile (p := isDigit) (l := rest)
    dsimp only
    split
    · exact h
    · simp only [List.append_assoc, List.cons_append, hf]
      exact h
  · exact h

/-- **A lexeme and its rest are the text that was read.** -/
theorem nextLexeme_append {c : Char} {cs : List Char} {l : Lexeme} (h : nextLexeme c cs = some l) :
    l.text ++ l.rest = c :: cs := by
  unfold nextLexeme at h
  split at h
  · cases h; rfl
  · split at h
    · cases h; exact splitNumber_append (c :: cs)
    · split at h
      · cases h
        simp [List.takeWhile_append_dropWhile]
      · cases h

theorem splitNumber_fst_ne_nil {c : Char} {cs : List Char} (h : isDigit c = true) :
    (splitNumber (c :: cs)).1 ≠ [] := by
  have hw : (c :: cs).takeWhile isDigit = c :: cs.takeWhile isDigit := by
    simp [h]
  unfold splitNumber
  rw [hw]
  split
  · dsimp only
    split <;> simp
  · simp

/-- A lexeme has at least one character. -/
theorem nextLexeme_text_ne_nil {c : Char} {cs : List Char} {l : Lexeme}
    (h : nextLexeme c cs = some l) : l.text ≠ [] := by
  unfold nextLexeme at h
  split at h
  · cases h; simp
  · split at h
    · cases h
      exact splitNumber_fst_ne_nil ‹_›
    · split at h
      · cases h; simp
      · cases h

/-! ## §2. One token. -/

/-- Why there are no more tokens: the formula is over, or a character begins none. -/
inductive Stop where
  | finish (position : Nat)
  | unrecognized (position : Nat) (c : Char)
  deriving DecidableEq, Repr

/-- The result of looking for a token: the token with what follows it, or the reason why there is
none with the text that is left from there on. -/
inductive Scan where
  | token (t : Token) (rest : List Char)
  | stop (s : Stop) (rest : List Char)

/-- **The next token** of the characters `cs`, the first of which stands at byte `position`. -/
def scan (position : Nat) (cs : List Char) : Scan :=
  let start := position + byteCount (cs.takeWhile isBlank)
  match cs.dropWhile isBlank with
  | [] => .stop (.finish start) []
  | c :: rest =>
      match nextLexeme c rest with
      | some l => .token ⟨l.kind, String.ofList l.text, start⟩ l.rest
      | none => .stop (.unrecognized start c) (c :: rest)

/-- Where the scan after a token goes on. -/
def Token.stopPosition (t : Token) : Nat :=
  t.position + t.text.utf8ByteSize

theorem length_dropWhile_le (p : Char → Bool) (cs : List Char) :
    (cs.dropWhile p).length ≤ cs.length :=
  List.Sublist.length_le (List.dropWhile_sublist p)

/-- **A token takes at least one character.** -/
theorem scan_shorter {position : Nat} {cs rest : List Char} {t : Token}
    (h : scan position cs = .token t rest) : rest.length < cs.length := by
  unfold scan at h
  have hd := length_dropWhile_le isBlank cs
  split at h
  · cases h
  · rename_i c cs' hcs
    split at h
    · rename_i l hl
      cases h
      have happ := congrArg List.length (nextLexeme_append hl)
      have hne := List.length_pos_iff.2 (nextLexeme_text_ne_nil hl)
      rw [hcs] at hd
      simp only [List.length_append, List.length_cons] at happ hd
      omega
    · cases h

/-! ## §3. The whole stream. -/

/-- The tokens of a formula and the reason why there are no more. -/
structure Scanned where
  tokens : List Token
  stop : Stop
  deriving DecidableEq, Repr

namespace Scanned

/-- The stream of the characters `cs`, the first of which stands at byte `position`. -/
def ofChars (position : Nat) (cs : List Char) : Scanned :=
  match _h : scan position cs with
  | .token t rest =>
      let later := ofChars t.stopPosition rest
      ⟨t :: later.tokens, later.stop⟩
  | .stop s _ => ⟨[], s⟩
termination_by cs.length
decreasing_by exact scan_shorter _h

/-- The stream of a formula. -/
def ofText (formula : String) : Scanned :=
  ofChars 0 formula.toList

theorem ofChars_of_token {position : Nat} {cs rest : List Char} {t : Token}
    (h : scan position cs = .token t rest) :
    ofChars position cs =
      ⟨t :: (ofChars t.stopPosition rest).tokens, (ofChars t.stopPosition rest).stop⟩ := by
  rw [ofChars]
  split
  · rename_i h'
    rw [h] at h'
    cases h'
    rfl
  · rename_i h'
    rw [h] at h'
    cases h'

theorem ofChars_of_stop {position : Nat} {cs rest : List Char} {s : Stop}
    (h : scan position cs = .stop s rest) : ofChars position cs = ⟨[], s⟩ := by
  rw [ofChars]
  split
  · rename_i h'
    rw [h] at h'
    cases h'
  · rename_i h'
    rw [h] at h'
    cases h'
    rfl

end Scanned

/-- The failure of a stream that ends at a character. -/
def unrecognized (position : Nat) (c : Char) : Fault :=
  .syntaxError position (String.singleton c) .unrecognizedCharacter

/-- **Every token up to and including the end token,** or the failure at the first character that
begins none. -/
def tokenize (formula : String) : Except Fault (List Token) :=
  let scanned := Scanned.ofText formula
  match scanned.stop with
  | .finish position => .ok (scanned.tokens ++ [Token.finish position])
  | .unrecognized position c => .error (unrecognized position c)

end MetricQuery
