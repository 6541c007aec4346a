/-
  MetricQuery.Proofs.Formula.Lossless
  ───────────────────────────────────
  **NOTHING OF A FORMULA IS LOST.**

  The tokens of a formula tile it.  Each of them is the piece of the formula at
  its own place, they do not overlap, what is left between them is white space,
  and each goes on for as long as it can.  The lexer may be described without a
  word about how it works: it stands at the beginning of the formula, and it
  moves on over white space or over one token that could not be longer.  It
  fails where it can do neither, and only at the end of the formula it is done.

    • `Longest`             — texts that are one token and could not be longer,
    • `longest_of_nextLexeme`, `nextLexeme_of_longest` — what is cut off is the longest token,
    • `Reached`             — where the lexer stands, with what it has read,
    • `Reached.ofChars_eq`  — from there on the stream is the stream of what is left,
    • `Reached.progress`, `Reached.exists_end` — it moves on until it is done,
    • `Tiled`, `Reached.tiled` — what has been passed is tiled by what has been read,
    • `tokenize_lossless`   — the tokens of a formula, and why there are none.
-/
import MetricQuery.Proofs.Formula.Spelling

namespace MetricQuery

open Text

/-! ## §1. Tokens that could not be longer. -/

/-- A run of characters of a class ends where no character of the class follows. -/
theorem span_append {p : Char → Bool} {cs rest : List Char} (h : ∀ c ∈ cs, p c = true)
    (hrest : ∀ d ∈ rest.head?, p d = false) :
    (cs ++ rest).takeWhile p = cs ∧ (cs ++ rest).dropWhile p = rest := by
  cases rest with
  | nil =>
      rw [List.append_nil]
      exact ⟨List.takeWhile_eq_self_iff.2 h, List.dropWhile_eq_nil_iff.2 h⟩
  | cons d rest => exact span_append_cons h (hrest d rfl) rest

/-- A character that no token begins with and that is not skipped. -/
def Stray (c : Char) : Prop :=
  isBlank c = false ∧ punctuation? c = none ∧ isWordChar c = false

/-- The text is one token of this kind, and it could not be longer with what comes after it: a
number is the longest numeral there, and no letter, digit or underscore follows an identifier.
Nothing comes after the end. -/
inductive Longest : TokenKind → List Char → List Char → Prop
  | mark {kind : TokenKind} {c : Char} {after : List Char} (h : punctuation? c = some kind) :
      Longest kind [c] after
  | number {c : Char} {cs after : List Char} (hdigit : isDigit c = true)
      (h : IsNumeral (c :: cs))
      (hlongest : ∀ longer, IsNumeral longer → longer <+: c :: cs ++ after →
        longer.length ≤ (c :: cs).length) : Longest .number (c :: cs) after
  | identifier {c : Char} {cs after : List Char} (hdigit : isDigit c = false)
      (h : ∀ d ∈ c :: cs, isWordChar d = true) (hend : ∀ d ∈ after.head?, isWordChar d = false) :
      Longest .identifier (c :: cs) after
  | finish : Longest .finish [] []

/-- **What is cut off as a number is the longest numeral** that the text begins with. -/
theorem length_le_splitNumber {p cs : List Char} (hp : IsNumeral p) (h : p <+: cs) :
    p.length ≤ (splitNumber cs).1.length := by
  obtain ⟨rest, rfl⟩ := h
  cases hp with
  | whole hdigits =>
      have hwhole : p.length ≤ ((p ++ rest).takeWhile isDigit).length := by
        rw [List.takeWhile_append_of_pos hdigits, List.length_append]
        omega
      unfold splitNumber
      dsimp only
      split
      · split
        · exact hwhole
        · rw [List.length_append]
          omega
      · exact hwhole
  | @pointed w f hw hf hne =>
      obtain ⟨htake, hdrop⟩ :=
        span_append_cons hw (show isDigit '.' = false by decide) (f ++ rest)
      have hfraction : (f ++ rest).takeWhile isDigit = f ++ rest.takeWhile isDigit :=
        List.takeWhile_append_of_pos hf
      unfold splitNumber
      dsimp only
      rw [List.append_assoc, List.cons_append, htake, hdrop]
      show (w ++ '.' :: f).length ≤ (if _ then (w, _) else _).1.length
      rw [hfraction, if_neg (by simp [hne])]
      simp only [List.length_append, List.length_cons]
      omega

theorem longest_splitNumber {c : Char} {cs : List Char} (h : isDigit c = true) :
    Longest .number (splitNumber (c :: cs)).1 (splitNumber (c :: cs)).2 := by
  have happend := splitNumber_append (c :: cs)
  have hnumeral := isNumeral_splitNumber (c :: cs)
  have hlongest : ∀ longer, IsNumeral longer → longer <+: c :: cs →
      longer.length ≤ (splitNumber (c :: cs)).1.length :=
    fun longer => length_le_splitNumber
  have hne : (splitNumber (c :: cs)).1 ≠ [] := splitNumber_fst_ne_nil h
  obtain ⟨d, tail, htail⟩ := List.exists_cons_of_ne_nil hne
  rw [htail] at happend hnumeral hlongest ⊢
  obtain ⟨rfl, -⟩ := List.cons.inj happend
  exact .number h hnumeral (by rwa [happend])

/-- A numeral that could not be longer is what is cut off as a number. -/
theorem splitNumber_of_longest {text after : List Char} (h : IsNumeral text)
    (hlongest : ∀ longer, IsNumeral longer → longer <+: text ++ after →
      longer.length ≤ text.length) : splitNumber (text ++ after) = (text, after) := by
  have happend := splitNumber_append (text ++ after)
  have hle := length_le_splitNumber h (List.prefix_append text after)
  have hge := hlongest _ (isNumeral_splitNumber (text ++ after)) ⟨_, happend⟩
  obtain ⟨hfst, hsnd⟩ := List.append_inj happend (by omega)
  exact Prod.ext hfst hsnd

/-- **What is cut off could not be longer.** -/
theorem longest_of_nextLexeme {c : Char} {cs : List Char} {l : Lexeme}
    (h : nextLexeme c cs = some l) : Longest l.kind l.text l.rest := by
  rcases nextLexeme_cases c cs with
    ⟨kind, hmark, hl⟩ | ⟨hdigit, hl⟩ | ⟨hdigit, hword, hl⟩ | ⟨-, -, hl⟩
  · rw [hl] at h
    cases h
    exact .mark hmark
  · rw [hl] at h
    cases h
    exact longest_splitNumber hdigit
  · rw [hl] at h
    cases h
    refine .identifier hdigit ?_ ?_
    · exact List.forall_mem_cons.2 ⟨hword, fun d hd => List.mem_takeWhile_imp hd⟩
    · intro d hd
      have hnot := List.head?_dropWhile_not isWordChar cs
      rw [Option.mem_def.1 hd] at hnot
      exact hnot
  · rw [hl] at h
    cases h

/-- A character from which nothing is cut off begins no token. -/
theorem stray_of_nextLexeme {c : Char} {cs : List Char} (h : nextLexeme c cs = none) :
    punctuation? c = none ∧ isWordChar c = false := by
  rcases nextLexeme_cases c cs with ⟨kind, -, hl⟩ | ⟨-, hl⟩ | ⟨-, -, hl⟩ | ⟨hmark, hword, -⟩
  · rw [hl] at h
    cases h
  · rw [hl] at h
    cases h
  · rw [hl] at h
    cases h
  · exact ⟨hmark, hword⟩

/-- **A token that could not be longer is cut off.** -/
theorem nextLexeme_of_longest {kind : TokenKind} {c : Char} {cs after : List Char}
    (h : Longest kind (c :: cs) after) :
    nextLexeme c (cs ++ after) = some ⟨kind, c :: cs, after⟩ := by
  cases h with
  | mark hmark => exact nextLexeme_of_mark hmark
  | number hdigit hnumeral hlongest =>
      rw [nextLexeme_of_digit hdigit, ← List.cons_append, splitNumber_of_longest hnumeral hlongest]
  | identifier hdigit hword hend =>
      obtain ⟨hc, hcs⟩ := List.forall_mem_cons.1 hword
      obtain ⟨htake, hdrop⟩ := span_append hcs hend
      rw [nextLexeme_of_word hdigit hc, htake, hdrop]

/-- No token has white space in it. -/
theorem Longest.isBlank_of_mem {kind : TokenKind} {text after : List Char}
    (h : Longest kind text after) {c : Char} (hc : c ∈ text) : isBlank c = false := by
  cases h with
  | mark h =>
      rw [List.mem_singleton.1 hc]
      exact isBlank_of_punctuation? h
  | number _ h _ =>
      rcases h.digit_or_point hc with hdigit | rfl
      · exact isBlank_of_isWordChar (isWordChar_of_isDigit hdigit)
      · decide
  | identifier _ h _ => exact isBlank_of_isWordChar (h c hc)
  | finish => cases hc

/-- A token that is not the end has a first character. -/
theorem Longest.exists_cons {kind : TokenKind} {text after : List Char}
    (h : Longest kind text after) (hkind : kind ≠ .finish) : ∃ c cs, text = c :: cs := by
  cases h with
  | mark h => exact ⟨_, _, rfl⟩
  | number _ _ _ => exact ⟨_, _, rfl⟩
  | identifier _ _ _ => exact ⟨_, _, rfl⟩
  | finish => exact absurd rfl hkind

/-! ## §2. Where the lexer stands. -/

/-- **Where the lexer may stand** in the characters `chars`: behind the first list, with the second
list left, having read these tokens.  It begins at the beginning, and moves on over white space or
over a token that could not be longer. -/
inductive Reached (chars : List Char) : List Char → List Char → List Token → Prop
  | start : Reached chars [] chars []
  | blank {before rest : List Char} {c : Char} {read : List Token}
      (h : Reached chars before (c :: rest) read) (hc : isBlank c = true) :
      Reached chars (before ++ [c]) rest read
  | token {before text rest : List Char} {kind : TokenKind} {read : List Token}
      (h : Reached chars before (text ++ rest) read) (hkind : kind ≠ .finish)
      (htext : Longest kind text rest) :
      Reached chars (before ++ text) rest (read ++ [⟨kind, String.ofList text, byteCount before⟩])

theorem stopPosition_ofList (kind : TokenKind) (before text : List Char) :
    Token.stopPosition ⟨kind, String.ofList text, byteCount before⟩ =
      byteCount (before ++ text) := by
  rw [byteCount_append, byteCount_eq text]
  rfl

section Reached

variable {chars before rest : List Char} {read : List Token}

/-- What has been passed and what is left are the whole. -/
theorem Reached.append_eq (h : Reached chars before rest read) : before ++ rest = chars := by
  induction h with
  | start => rfl
  | blank _ _ ih => rwa [List.append_assoc, List.singleton_append]
  | token _ _ _ ih => rwa [List.append_assoc]

/-- **Nothing but what is left matters from here on.** -/
theorem Reached.ofChars_eq (h : Reached chars before rest read) :
    Scanned.ofChars 0 chars =
      ⟨read ++ (Scanned.ofChars (byteCount before) rest).tokens,
        (Scanned.ofChars (byteCount before) rest).stop⟩ := by
  induction h with
  | start => rfl
  | blank _ hc ih =>
      rw [ih, Scanned.ofChars_congr (scan_cons_of_isBlank hc), byteCount_append]
  | @token before text rest kind read _ hkind htext ih =>
      obtain ⟨c, cs, rfl⟩ := htext.exists_cons hkind
      have hscan : scan (byteCount before) (c :: (cs ++ rest)) =
          .token ⟨kind, String.ofList (c :: cs), byteCount before⟩ rest :=
        scan_of_nextLexeme (htext.isBlank_of_mem List.mem_cons_self) (nextLexeme_of_longest htext)
      rw [ih, List.cons_append, Scanned.ofChars_of_token hscan, stopPosition_ofList,
        List.append_assoc, List.singleton_append]

/-- The lexer is done: nothing is left, or a character that begins no token. -/
def Ended (rest : List Char) : Prop :=
  rest = [] ∨ ∃ c after, rest = c :: after ∧ Stray c

/-- **The lexer moves on unless it is done.** -/
theorem Reached.progress (h : Reached chars before rest read) :
    Ended rest ∨ ∃ before' rest' read', Reached chars before' rest' read' ∧
      rest'.length < rest.length := by
  cases rest with
  | nil => exact .inl (.inl rfl)
  | cons c cs =>
      by_cases hblank : isBlank c = true
      · exact .inr ⟨_, _, _, h.blank hblank, Nat.lt_succ_self _⟩
      · cases hl : nextLexeme c cs with
        | none =>
            exact .inl (.inr ⟨c, cs, rfl, Bool.eq_false_iff.2 hblank, stray_of_nextLexeme hl⟩)
        | some l =>
            have happend := nextLexeme_append hl
            have hne := List.length_pos_iff.2 (nextLexeme_text_ne_nil hl)
            refine .inr ⟨_, l.rest, _,
              (happend ▸ h).token (kind_ne_finish_of_nextLexeme hl) (longest_of_nextLexeme hl), ?_⟩
            rw [← happend, List.length_append]
            omega

/-- **The lexer gets to an end** from wherever it stands, since it always leaves less. -/
theorem Reached.exists_end (h : Reached chars before rest read) :
    ∃ before' rest' read', Reached chars before' rest' read' ∧ Ended rest' := by
  generalize hlength : rest.length = n
  induction n using Nat.strong_induction_on generalizing before rest read with
  | _ n ih =>
      rcases h.progress with hend | ⟨before', rest', read', h', hshort⟩
      · exact ⟨_, _, _, h, hend⟩
      · exact ih rest'.length (by omega) h' rfl

end Reached

/-! ## §3. What has been passed. -/

/-- The byte belongs to the token. -/
def Token.Covers (t : Token) (byte : Nat) : Prop :=
  t.position ≤ byte ∧ byte < t.stopPosition

theorem exists_covers_append {ts : List Token} {t : Token} {byte : Nat} :
    (∃ u ∈ ts ++ [t], u.Covers byte) ↔ (∃ u ∈ ts, u.Covers byte) ∨ t.Covers byte := by
  simp only [List.mem_append, List.mem_singleton, or_and_right, exists_or, exists_eq_left]

/-- **The tokens tile the characters that have been passed:** each stands at its own place and could
not be longer, each ends before the next begins, and all characters but white space belong to
them. -/
structure Tiled (chars before : List Char) (read : List Token) : Prop where
  stands : ∀ t ∈ read, t.kind ≠ .finish ∧ ∃ pre post, chars = pre ++ t.text.toList ++ post ∧
    t.position = byteCount pre ∧ Longest t.kind t.text.toList post
  passed : ∀ t ∈ read, t.stopPosition ≤ byteCount before
  ordered : read.Pairwise fun t u => t.stopPosition ≤ u.position
  covered : ∀ pre c post, before = pre ++ c :: post →
    ((∃ t ∈ read, t.Covers (byteCount pre)) ↔ isBlank c = false)
  few : read.length ≤ before.length

/-- A character of two texts one after the other stands in the first or in the second. -/
theorem split_append {xs ys pre post : List Char} {c : Char} (h : xs ++ ys = pre ++ c :: post) :
    (∃ rest, xs = pre ++ c :: rest) ∨ ∃ inner, pre = xs ++ inner ∧ ys = inner ++ c :: post := by
  rcases List.append_eq_append_iff.1 h with ⟨inner, hpre, hys⟩ | ⟨inner, hxs, hcons⟩
  · exact .inr ⟨inner, hpre, hys⟩
  · cases inner with
    | nil =>
        rw [List.append_nil] at hxs
        exact .inr ⟨[], by rw [hxs, List.append_nil], hcons.symm⟩
    | cons d rest =>
        obtain ⟨rfl, -⟩ := List.cons.inj hcons
        exact .inl ⟨rest, hxs⟩

theorem byteCount_lt_append_cons (pre : List Char) (c : Char) (post : List Char) :
    byteCount pre < byteCount (pre ++ c :: post) := by
  have hsize : byteCount [c] = c.utf8Size := by simp [byteCount]
  have hpos := c.utf8Size_pos
  rw [List.append_cons, byteCount_append, byteCount_append, hsize]
  omega

namespace Tiled

variable {chars before rest : List Char} {read : List Token}

theorem start : Tiled chars [] [] where
  stands := nofun
  passed := nofun
  ordered := .nil
  covered := by
    intro pre c post h
    cases pre <;> cases h
  few := Nat.le_refl 0

/-- No token reaches beyond what has been passed. -/
theorem not_covers (h : Tiled chars before read) (inner : List Char) {t : Token} (ht : t ∈ read) :
    ¬ t.Covers (byteCount (before ++ inner)) := by
  intro hcovers
  have hpassed := h.passed t ht
  have hlt := hcovers.2
  rw [byteCount_append] at hlt
  omega

/-- **White space is passed over.** -/
theorem blank {c : Char} (h : Tiled chars before read) (hc : isBlank c = true) :
    Tiled chars (before ++ [c]) read where
  stands := h.stands
  passed := by
    intro t ht
    rw [byteCount_append]
    exact Nat.le_add_right_of_le (h.passed t ht)
  ordered := h.ordered
  covered := by
    intro pre d post hsplit
    rcases split_append hsplit with ⟨post', hbefore⟩ | ⟨inner, rfl, hsingle⟩
    · exact h.covered pre d post' hbefore
    · -- The character is the white space itself, and no token reaches it.
      rcases List.singleton_eq_append_iff.1 hsingle with ⟨rfl, hcons⟩ | ⟨-, hnil⟩
      · obtain ⟨rfl, -⟩ := List.cons.inj hcons
        constructor
        · intro hcovered
          obtain ⟨t, ht, hcovers⟩ := hcovered
          exact absurd hcovers (h.not_covers [] ht)
        · intro hnot
          rw [hc] at hnot
          cases hnot
      · cases hnil
  few := by
    rw [List.length_append]
    exact Nat.le_add_right_of_le h.few

/-- **A token is added to the tiles.** -/
theorem token {text : List Char} {kind : TokenKind} (h : Tiled chars before read)
    (hchars : before ++ (text ++ rest) = chars) (hkind : kind ≠ .finish)
    (htext : Longest kind text rest) :
    Tiled chars (before ++ text) (read ++ [⟨kind, String.ofList text, byteCount before⟩]) where
  stands := by
    intro t ht
    rcases List.mem_append.1 ht with ht | ht
    · exact h.stands t ht
    · cases List.mem_singleton.1 ht
      refine ⟨hkind, before, rest, ?_, rfl, ?_⟩
      · rw [String.toList_ofList, List.append_assoc, hchars]
      · rwa [String.toList_ofList]
  passed := by
    intro t ht
    rcases List.mem_append.1 ht with ht | ht
    · rw [byteCount_append]
      exact Nat.le_add_right_of_le (h.passed t ht)
    · cases List.mem_singleton.1 ht
      exact Nat.le_of_eq (stopPosition_ofList kind before text)
  ordered := by
    refine List.pairwise_append.2 ⟨h.ordered, List.pairwise_singleton _ _, ?_⟩
    intro t ht u hu
    cases List.mem_singleton.1 hu
    exact h.passed t ht
  covered := by
    intro pre c post hsplit
    have hnew : Token.Covers ⟨kind, String.ofList text, byteCount before⟩ (byteCount pre) ↔
        byteCount before ≤ byteCount pre ∧ byteCount pre < byteCount (before ++ text) := by
      unfold Token.Covers
      rw [stopPosition_ofList]
    rcases split_append hsplit with ⟨post', hbefore⟩ | ⟨inner, rfl, htail⟩
    · -- The new token begins behind the character.
      have hlt := byteCount_lt_append_cons pre c post'
      rw [← hbefore] at hlt
      rw [← h.covered pre c post' hbefore, exists_covers_append, hnew]
      exact or_iff_left (by omega)
    · -- The character belongs to the new token, and no token has white space in it.
      have hmem : c ∈ text := by
        rw [htail]
        simp
      have hlt := byteCount_lt_append_cons (before ++ inner) c post
      rw [List.append_assoc, ← htail] at hlt
      have hle : byteCount before ≤ byteCount (before ++ inner) := by
        rw [byteCount_append]
        omega
      refine ⟨fun _ => htext.isBlank_of_mem hmem, fun _ => ⟨_, ?_, hnew.2 ⟨hle, hlt⟩⟩⟩
      simp
  few := by
    obtain ⟨c, cs, rfl⟩ := htext.exists_cons hkind
    have hfew := h.few
    simp only [List.length_append, List.length_cons, List.length_nil]
    omega

end Tiled

/-- **What has been passed is tiled by what has been read.** -/
theorem Reached.tiled {chars before rest : List Char} {read : List Token}
    (h : Reached chars before rest read) : Tiled chars before read := by
  induction h with
  | start => exact .start
  | blank _ hc ih => exact ih.blank hc
  | token h hkind htext ih => exact ih.token h.append_eq hkind htext

/-! ## §4. The tokens of a formula. -/

/-- Where nothing is left, the tokens are those that were read and the end. -/
theorem tokenize_of_reached_nil {formula : String} {before : List Char} {read : List Token}
    (h : Reached formula.toList before [] read) :
    tokenize formula = .ok (read ++ [Token.finish formula.utf8ByteSize]) := by
  have hbefore : byteCount before = formula.utf8ByteSize := by
    rw [← List.append_nil before, h.append_eq, byteCount_eq, String.ofList_toList]
  have hstop : scan (byteCount before) [] = .stop (.finish (byteCount before)) [] := rfl
  refine tokenize_eq_ok_iff.2 ?_
  unfold Scanned.ofText
  rw [h.ofChars_eq, Scanned.ofChars_of_stop hstop, hbefore]
  exact ⟨rfl, List.append_nil read⟩

/-- Where a character begins no token, it is what the failure names. -/
theorem tokenize_of_reached_stray {formula : String} {before after : List Char} {c : Char}
    {read : List Token} (h : Reached formula.toList before (c :: after) read) (hc : Stray c) :
    tokenize formula = .error (unrecognized (byteCount before) c) := by
  have hnone : nextLexeme c after = none := nextLexeme_of_stray hc.2.1 hc.2.2
  unfold tokenize Scanned.ofText
  rw [h.ofChars_eq, Scanned.ofChars_of_stop (scan_of_stray hc.1 hnone)]

/-- A token of a tiling and the end are pieces of the formula at their places. -/
theorem Tiled.exists_slice {formula : String} {before : List Char} {read : List Token}
    (h : Tiled formula.toList before read) {t : Token}
    (ht : t ∈ read ++ [Token.finish formula.utf8ByteSize]) :
    ∃ pre post, formula = pre ++ t.text ++ post ∧ t.position = pre.utf8ByteSize ∧
      Longest t.kind t.text.toList post.toList := by
  rcases List.mem_append.1 ht with ht | ht
  · obtain ⟨-, pre, post, hchars, hposition, hlongest⟩ := h.stands t ht
    refine ⟨String.ofList pre, String.ofList post, ?_, ?_, ?_⟩
    · rw [← String.toList_inj, hchars]
      simp
    · rw [hposition, byteCount_eq]
    · rwa [String.toList_ofList]
  · cases List.mem_singleton.1 ht
    exact ⟨formula, "", by simp [Token.finish], rfl, .finish⟩

/-- With the end, the tokens of a tiling of a whole formula cover what they covered before. -/
theorem Tiled.exists_covers_iff {formula pre post : String} {c : Char} {read : List Token}
    (h : Tiled formula.toList formula.toList read)
    (hformula : formula = pre ++ String.singleton c ++ post) :
    (∃ t ∈ read ++ [Token.finish formula.utf8ByteSize], t.Covers pre.utf8ByteSize) ↔
      isBlank c = false := by
  have hchars : formula.toList = pre.toList ++ c :: post.toList := by
    rw [hformula]
    simp
  have hend : ¬ (Token.finish formula.utf8ByteSize).Covers pre.utf8ByteSize := by
    intro hcovers
    exact absurd hcovers.2 (Nat.not_lt.2 hcovers.1)
  have hcovered := h.covered pre.toList c post.toList hchars
  rw [byteCount_eq, String.ofList_toList] at hcovered
  rw [← hcovered, exists_covers_append]
  exact or_iff_left hend

/-- **Lexing loses nothing and cuts nothing short.**  If a formula has tokens, the last one is the
end, which stands at the length of the formula, and no other is.  The text of each token is the
piece of the formula at its position, in bytes and on a character boundary, and could not be longer.
Every token ends before the next one begins, and a character belongs to a token exactly if it is not
white space.  There are no more tokens than characters, and the end.

A formula has no tokens exactly if the lexer, moving on over white space and over such tokens, gets
to a character that is neither white space nor a mark, a letter, a digit or an underscore; the
failure names this character and the byte where it stands. -/
theorem tokenize_lossless (formula : String) :
    (∀ ts, tokenize formula = .ok ts →
      (∃ read, ts = read ++ [Token.finish formula.utf8ByteSize] ∧ ∀ t ∈ read, t.kind ≠ .finish) ∧
      (∀ t ∈ ts, ∃ before after, formula = before ++ t.text ++ after ∧
        t.position = before.utf8ByteSize ∧ Longest t.kind t.text.toList after.toList) ∧
      (ts.Pairwise fun t u => t.stopPosition ≤ u.position) ∧
      (∀ before c after, formula = before ++ String.singleton c ++ after →
        ((∃ t ∈ ts, t.Covers before.utf8ByteSize) ↔ isBlank c = false)) ∧
      ts.length ≤ formula.length + 1) ∧
    ∀ fault, tokenize formula = .error fault ↔
      ∃ before c after read, formula = before ++ String.singleton c ++ after ∧
        Reached formula.toList before.toList (c :: after.toList) read ∧ Stray c ∧
        fault = unrecognized before.utf8ByteSize c := by
  obtain ⟨before, rest, read, hreached, hend⟩ :=
    (Reached.start : Reached formula.toList [] formula.toList []).exists_end
  constructor
  · intro ts hts
    rcases hend with rfl | ⟨c, after, rfl, hstray⟩
    · rw [tokenize_of_reached_nil hreached] at hts
      cases hts
      have htiled := hreached.tiled
      have hbefore : before = formula.toList := by
        rw [← hreached.append_eq, List.append_nil]
      rw [hbefore] at htiled
      have hsize : byteCount formula.toList = formula.utf8ByteSize := by
        rw [byteCount_eq, String.ofList_toList]
      refine ⟨⟨read, rfl, fun t ht => (htiled.stands t ht).1⟩, fun t => htiled.exists_slice, ?_, ?_,
        ?_⟩
      · refine List.pairwise_append.2 ⟨htiled.ordered, List.pairwise_singleton _ _, ?_⟩
        intro t ht u hu
        cases List.mem_singleton.1 hu
        exact hsize ▸ htiled.passed t ht
      · exact fun pre c post => htiled.exists_covers_iff
      · have hfew := htiled.few
        rw [String.length_toList] at hfew
        simpa using hfew
    · rw [tokenize_of_reached_stray hreached hstray] at hts
      cases hts
  · intro fault
    constructor
    · intro hfault
      rcases hend with rfl | ⟨c, after, rfl, hstray⟩
      · rw [tokenize_of_reached_nil hreached] at hfault
        cases hfault
      · rw [tokenize_of_reached_stray hreached hstray] at hfault
        cases hfault
        refine ⟨String.ofList before, c, String.ofList after, read, ?_, ?_, hstray, ?_⟩
        · rw [← String.toList_inj, ← hreached.append_eq]
          simp
        · rwa [String.toList_ofList, String.toList_ofList]
        · rw [byteCount_eq]
    · intro h
      obtain ⟨pre, c, post, read', -, hreached', hstray, rfl⟩ := h
      rw [tokenize_of_reached_stray hreached' hstray, byteCount_eq, String.ofList_toList]

/-- The tokens of a formula with a letter of two bytes and a blank of three. -/
def wideTokens : List Token :=
  [⟨.identifier, "ä", 0⟩, ⟨.equals, "=", 3⟩, ⟨.number, "1.25", 7⟩, Token.finish 11]

/-- The point of a number belongs to a token, and the wide blank before the number does not.  A
second point is stray, and so is one that no digit follows. -/
theorem tokenize_lossless_points :
    (∃ t ∈ wideTokens, t.Covers "ä =\u30001".utf8ByteSize) ∧
      (¬ ∃ t ∈ wideTokens, t.Covers "ä =".utf8ByteSize) ∧
      (∃ before c after read, "1.2.3" = before ++ String.singleton c ++ after ∧
        Reached "1.2.3".toList before.toList (c :: after.toList) read ∧ Stray c ∧
        unrecognized 3 '.' = unrecognized before.utf8ByteSize c) ∧
      ∃ before c after read, "3. " = before ++ String.singleton c ++ after ∧
        Reached "3. ".toList before.toList (c :: after.toList) read ∧ Stray c ∧
        unrecognized 1 '.' = unrecognized before.utf8ByteSize c := by
  have htokens : tokenize "ä =\u30001.25" = .ok wideTokens := by decide +kernel
  obtain ⟨-, -, -, hcovered, -⟩ := (tokenize_lossless "ä =\u30001.25").1 wideTokens htokens
  refine ⟨?_, ?_, ?_, ?_⟩
  · exact (hcovered _ '.' "25" (by decide +kernel)).2 (by decide)
  · rw [hcovered _ '\u3000' "1.25" (by decide +kernel)]
    decide
  · exact ((tokenize_lossless "1.2.3").2 _).1 (by decide +kernel)
  · exact ((tokenize_lossless "3. ").2 _).1 (by decide +kernel)

end MetricQuery
