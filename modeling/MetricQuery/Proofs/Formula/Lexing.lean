/-
  MetricQuery.Proofs.Formula.Lexing
  ─────────────────────────────────
  **TOKENS SIDE BY SIDE.**

  A text that is one token stays that token where a character follows that cannot
  go on with it.  A text that is put together from such pieces is therefore read
  as the pieces, and so a variable can be written for any entity whose names are
  words.

    • `isBlank_of_isWordChar`   — white space belongs to no word,
    • `nextLexeme_cases`        — what a text starts with,
    • `Ends`                    — characters that no token goes on with,
    • `nextLexeme_append_cons`  — what follows such a character does not matter,
    • `Spells`                  — texts that are one token,
    • `Lexes`                   — the tokens of a text, whatever their positions,
    • `parse_variableText`      — the formula that is a variable for an entity.
-/
import Mathlib.Data.List.TakeWhile
import MetricQuery.Entity
import MetricQuery.Proofs.Formula.Acceptance

namespace MetricQuery

open Text

/-! ## §1. Classes of characters. -/

theorem isWordChar_of_isDigit {c : Char} (h : isDigit c = true) : isWordChar c = true := by
  have halphanum : c.isAlphanum = true := by
    unfold Char.isAlphanum
    rw [Bool.or_eq_true]
    exact .inr h
  unfold isWordChar
  rw [isAlphanumeric_of_isAlphanum halphanum, Bool.true_or]

theorem punctuation?_of_isWordChar {c : Char} (h : isWordChar c = true) :
    punctuation? c = none := by
  unfold punctuation?
  split <;> first | rfl | exact absurd h (by decide +kernel)

/-- **No letter, digit or underscore is white space.** -/
theorem isBlank_of_isWordChar {c : Char} (h : isWordChar c = true) : isBlank c = false := by
  have hapart : ∀ r ∈ blankRanges, ∀ s ∈ alphanumericRanges, r.2 < s.1 ∨ s.2 < r.1 := by
    decide +kernel
  rw [Bool.eq_false_iff]
  intro hblank
  rcases Bool.or_eq_true_iff.1 h with halphanumeric | hline
  · obtain ⟨r, hr, hlo, hhi⟩ := inRanges_iff.1 hblank
    obtain ⟨s, hs, hlo', hhi'⟩ := inRanges_iff.1 halphanumeric
    have hside := hapart r hr s hs
    omega
  · rw [eq_of_beq hline] at hblank
    exact absurd hblank (by decide)

theorem isBlank_of_punctuation? {c : Char} {kind : TokenKind} (h : punctuation? c = some kind) :
    isBlank c = false := by
  unfold punctuation? at h
  split at h <;> first | decide | cases h

/-! ## §2. Lexemes. -/

section Lexemes

variable {c : Char} {cs : List Char} {kind : TokenKind}

theorem nextLexeme_of_mark (h : punctuation? c = some kind) :
    nextLexeme c cs = some ⟨kind, [c], cs⟩ := by
  unfold nextLexeme
  rw [h]

theorem nextLexeme_of_digit (h : isDigit c = true) :
    nextLexeme c cs = some ⟨.number, (splitNumber (c :: cs)).1, (splitNumber (c :: cs)).2⟩ := by
  unfold nextLexeme
  rw [punctuation?_of_isWordChar (isWordChar_of_isDigit h)]
  exact if_pos h

theorem nextLexeme_of_word (hdigit : isDigit c = false) (h : isWordChar c = true) :
    nextLexeme c cs =
      some ⟨.identifier, c :: cs.takeWhile isWordChar, cs.dropWhile isWordChar⟩ := by
  unfold nextLexeme
  rw [punctuation?_of_isWordChar h]
  dsimp only
  rw [if_neg (Bool.eq_false_iff.1 hdigit), if_pos h]

theorem nextLexeme_of_stray (hmark : punctuation? c = none) (h : isWordChar c = false) :
    nextLexeme c cs = none := by
  have hdigit : ¬ isDigit c = true := by
    intro hdigit
    rw [isWordChar_of_isDigit hdigit] at h
    cases h
  unfold nextLexeme
  rw [hmark]
  dsimp only
  rw [if_neg hdigit, if_neg (Bool.eq_false_iff.1 h)]

/-- **What a text starts with:** a punctuation mark, a number, an identifier, or a character that
begins no token. -/
theorem nextLexeme_cases (c : Char) (cs : List Char) :
    (∃ kind, punctuation? c = some kind ∧ nextLexeme c cs = some ⟨kind, [c], cs⟩) ∨
    (isDigit c = true ∧
      nextLexeme c cs = some ⟨.number, (splitNumber (c :: cs)).1, (splitNumber (c :: cs)).2⟩) ∨
    (isDigit c = false ∧ isWordChar c = true ∧ nextLexeme c cs =
      some ⟨.identifier, c :: cs.takeWhile isWordChar, cs.dropWhile isWordChar⟩) ∨
    (punctuation? c = none ∧ isWordChar c = false ∧ nextLexeme c cs = none) := by
  cases hmark : punctuation? c with
  | some kind => exact .inl ⟨kind, rfl, nextLexeme_of_mark hmark⟩
  | none =>
      cases hdigit : isDigit c with
      | true => exact .inr (.inl ⟨rfl, nextLexeme_of_digit hdigit⟩)
      | false =>
          cases hword : isWordChar c with
          | true => exact .inr (.inr (.inl ⟨rfl, rfl, nextLexeme_of_word hdigit hword⟩))
          | false => exact .inr (.inr (.inr ⟨rfl, rfl, nextLexeme_of_stray hmark hword⟩))

end Lexemes

/-- A character that no token goes on with. -/
def Ends (c : Char) : Prop :=
  isWordChar c = false ∧ isDigit c = false ∧ c ≠ '.'

instance (c : Char) : Decidable (Ends c) :=
  inferInstanceAs (Decidable (_ ∧ _ ∧ _))

/-- A run of characters of a class ends at a character outside of it. -/
theorem span_append_cons {p : Char → Bool} {cs : List Char} (h : ∀ c ∈ cs, p c = true) {d : Char}
    (hd : p d = false) (rest : List Char) :
    (cs ++ d :: rest).takeWhile p = cs ∧ (cs ++ d :: rest).dropWhile p = d :: rest := by
  constructor
  · rw [List.takeWhile_append_of_pos h, List.takeWhile_cons_of_neg (by simp [hd]), List.append_nil]
  · rw [List.dropWhile_append_of_pos h, List.dropWhile_cons_of_neg (by simp [hd])]

/-- A number is a run of digits, or two with a point between them. -/
theorem digits_of_splitNumber {cs : List Char} (h : (splitNumber cs).2 = []) :
    (∀ c ∈ cs, isDigit c = true) ∨
      ∃ whole fraction, cs = whole ++ '.' :: fraction ∧ (∀ c ∈ whole, isDigit c = true) ∧
        (∀ c ∈ fraction, isDigit c = true) ∧ fraction ≠ [] := by
  have hwhole : ∀ c ∈ cs.takeWhile isDigit, isDigit c = true :=
    fun c hc => List.mem_takeWhile_imp hc
  have hcs := List.takeWhile_append_dropWhile (p := isDigit) (l := cs)
  unfold splitNumber at h
  dsimp only at h
  split at h
  · rename_i fraction hpoint
    split at h
    · cases h
    · rename_i hne
      refine Or.inr ⟨_, fraction, (hpoint ▸ hcs).symm, hwhole, List.dropWhile_eq_nil_iff.1 h, ?_⟩
      rintro rfl
      exact hne rfl
  · exact Or.inl (List.dropWhile_eq_nil_iff.1 h)

/-- A number is cut off where it ends. -/
theorem splitNumber_append_cons {cs : List Char} (h : (splitNumber cs).2 = []) {d : Char}
    (hd : Ends d) (rest : List Char) : splitNumber (cs ++ d :: rest) = (cs, d :: rest) := by
  obtain ⟨-, hdigit, hpoint⟩ := hd
  rcases digits_of_splitNumber h with hall | ⟨whole, fraction, rfl, hwhole, hfraction, hne⟩
  · obtain ⟨htake, hdrop⟩ := span_append_cons hall hdigit rest
    unfold splitNumber
    dsimp only
    rw [htake, hdrop]
    split
    · rename_i heq
      exact absurd (List.cons.inj heq).1 hpoint
    · rfl
  · have hnotDigit : isDigit '.' = false := by decide
    obtain ⟨htake, hdrop⟩ := span_append_cons hwhole hnotDigit (fraction ++ d :: rest)
    obtain ⟨htake', hdrop'⟩ := span_append_cons hfraction hdigit rest
    unfold splitNumber
    dsimp only
    rw [List.append_assoc, List.cons_append, htake, hdrop]
    show (if (List.takeWhile isDigit (fraction ++ d :: rest)).isEmpty = true then _ else _) = _
    rw [htake', hdrop', if_neg (by simpa using hne)]

/-- **A token that is followed by a character that it cannot go on with** is the same token. -/
theorem nextLexeme_append_cons {c : Char} {cs : List Char} {kind : TokenKind}
    (h : nextLexeme c cs = some ⟨kind, c :: cs, []⟩) {d : Char} (hd : Ends d)
    (rest : List Char) : nextLexeme c (cs ++ d :: rest) = some ⟨kind, c :: cs, d :: rest⟩ := by
  rcases nextLexeme_cases c cs with
    ⟨mark, hmark, hl⟩ | ⟨hdigit, hl⟩ | ⟨hdigit, hword, hl⟩ | ⟨-, -, hl⟩
  · rw [hl] at h
    cases h
    exact nextLexeme_of_mark hmark
  · rw [hl] at h
    injection h with h
    injection h with hkind _ hrest
    rw [nextLexeme_of_digit hdigit, ← hkind, ← List.cons_append, splitNumber_append_cons hrest hd]
  · rw [hl] at h
    injection h with h
    injection h with hkind _ hrest
    obtain ⟨htake, hdrop⟩ := span_append_cons (List.dropWhile_eq_nil_iff.1 hrest) hd.1 rest
    rw [nextLexeme_of_word hdigit hword, htake, hdrop, hkind]
  · rw [hl] at h
    cases h

/-! ## §3. Texts that are one token. -/

/-- The text as a whole is one token. -/
def Spells (kind : TokenKind) (text : String) : Prop :=
  ∃ position, tokenize text = .ok [⟨kind, text, 0⟩, Token.finish position]

/-- A text that is one token starts with it and has no white space before it. -/
theorem Spells.exists_nextLexeme {kind : TokenKind} {text : String} (h : Spells kind text) :
    ∃ c cs, text.toList = c :: cs ∧ isBlank c = false ∧
      nextLexeme c cs = some ⟨kind, c :: cs, []⟩ := by
  obtain ⟨position, htokens⟩ := h
  obtain ⟨-, htokens⟩ := tokenize_eq_ok_iff.1
    (show tokenize text = .ok ([⟨kind, text, 0⟩] ++ [Token.finish position]) from htokens)
  unfold Scanned.ofText at htokens
  rw [Scanned.ofChars] at htokens
  split at htokens
  · rename_i t rest hscan
    obtain ⟨rfl, -⟩ := List.cons.inj htokens
    unfold scan at hscan
    split at hscan
    · cases hscan
    · rename_i c cs hdrop
      split at hscan
      · rename_i l hl
        injection hscan with htoken hrest
        injection htoken with hkind htext _
        have htoList : l.text = text.toList := by rw [← htext, String.toList_ofList]
        -- The lexeme is the whole text, so nothing is left before it and after it.
        have happend := nextLexeme_append hl
        have hshort := length_dropWhile_le isBlank text.toList
        have hlength := congrArg List.length happend
        rw [hdrop] at hshort
        rw [List.length_append, htoList] at hlength
        have hnil : l.rest = [] := List.eq_nil_of_length_eq_zero (by omega)
        have hwhole : text.toList = c :: cs := by
          rw [← htoList, ← happend, hnil, List.append_nil]
        refine ⟨c, cs, hwhole, ?_, ?_⟩
        · rw [hwhole] at hdrop
          have hhead := List.dropWhile_eq_self_iff.1 hdrop (by simp)
          simpa using hhead
        · rw [hl, ← hkind, ← hwhole, ← htoList, ← hnil]
      · cases hscan
  · cases htokens

/-! ## §4. Tokens of a text. -/

/-- The characters are read as tokens of these kinds and texts, wherever they stand. -/
def Lexes (cs : List Char) (pieces : List (TokenKind × String)) : Prop :=
  ∀ position, ∃ stop, (Scanned.ofChars position cs).stop = .finish stop ∧
    (Scanned.ofChars position cs).tokens.map (fun t => (t.kind, t.text)) = pieces

theorem lexes_nil : Lexes [] [] := by
  intro position
  rw [Scanned.ofChars_of_stop (show scan position [] = .stop (.finish _) [] from rfl)]
  exact ⟨_, rfl, rfl⟩

/-- A lexeme without white space before it is what a scan finds. -/
theorem scan_of_nextLexeme {position : Nat} {c : Char} {cs : List Char} {l : Lexeme}
    (hblank : isBlank c = false) (hl : nextLexeme c cs = some l) :
    scan position (c :: cs) = .token ⟨l.kind, String.ofList l.text, position⟩ l.rest := by
  unfold scan
  simp [hblank, hl, byteCount]

/-- A character that begins no token is found where it stands. -/
theorem scan_of_stray {position : Nat} {c : Char} {cs : List Char} (hblank : isBlank c = false)
    (hl : nextLexeme c cs = none) :
    scan position (c :: cs) = .stop (.unrecognized position c) (c :: cs) := by
  unfold scan
  simp [hblank, hl, byteCount]

/-- A lexeme without white space before it is a token. -/
theorem Lexes.cons {c : Char} {cs : List Char} {l : Lexeme} {pieces : List (TokenKind × String)}
    (hblank : isBlank c = false) (hl : nextLexeme c cs = some l) (h : Lexes l.rest pieces) :
    Lexes (c :: cs) ((l.kind, String.ofList l.text) :: pieces) := by
  intro position
  rw [Scanned.ofChars_of_token (scan_of_nextLexeme hblank hl)]
  obtain ⟨stop, hstop, htokens⟩ := h (Token.stopPosition ⟨l.kind, String.ofList l.text, position⟩)
  exact ⟨stop, hstop, by rw [List.map_cons, htokens]⟩

/-- **A text that is one token** is a token of every text in which a character that ends it
follows. -/
theorem Lexes.token {kind : TokenKind} {text : String} {d : Char} {rest : List Char}
    {pieces : List (TokenKind × String)} (htext : Spells kind text) (hd : Ends d)
    (h : Lexes (d :: rest) pieces) :
    Lexes (text.toList ++ d :: rest) ((kind, text) :: pieces) := by
  obtain ⟨c, cs, hchars, hblank, hl⟩ := htext.exists_nextLexeme
  have hcons := Lexes.cons hblank (nextLexeme_append_cons hl hd rest) h
  rwa [hchars, List.cons_append, show (kind, text) = (kind, String.ofList (c :: cs)) by
    rw [← hchars, String.ofList_toList]]

/-- A punctuation mark is a token, whatever follows it. -/
theorem Lexes.mark {c : Char} {kind : TokenKind} {rest : List Char}
    {pieces : List (TokenKind × String)} (hblank : isBlank c = false)
    (hc : punctuation? c = some kind) (h : Lexes rest pieces) :
    Lexes (c :: rest) ((kind, String.singleton c) :: pieces) :=
  Lexes.cons hblank (nextLexeme_of_mark hc) h

/-! ## §5. Variables for entities. -/

/-- A text that can be the value of an option: one token, an identifier or a number. -/
def IsWord (text : String) : Prop :=
  ∃ kind, (kind = .identifier ∨ kind = .number) ∧ Spells kind text

/-- The formula that is one variable, for an entity. -/
def variableText (e : Entity) : String :=
  "[sid=" ++ e.sensor ++ ",nid=" ++ e.node ++ "]"

theorem spells_sid : Spells .identifier "sid" :=
  ⟨3, by decide +kernel⟩

theorem spells_nid : Spells .identifier "nid" :=
  ⟨3, by decide +kernel⟩

/-- The tokens of a variable. -/
theorem lexes_variableText {e : Entity} {sensor node : TokenKind} (hsensor : Spells sensor e.sensor)
    (hnode : Spells node e.node) :
    Lexes (variableText e).toList [(.openBracket, "["), (.identifier, "sid"), (.equals, "="),
      (sensor, e.sensor), (.comma, ","), (.identifier, "nid"), (.equals, "="), (node, e.node),
      (.closeBracket, "]")] := by
  have hchars : (variableText e).toList =
      '[' :: ("sid".toList ++ '=' :: (e.sensor.toList ++ ',' :: ("nid".toList ++ '=' ::
        (e.node.toList ++ [']'])))) := by
    simp [variableText]
  rw [hchars]
  exact .mark (by decide) rfl <| .token spells_sid (by decide +kernel) <|
    .mark (by decide) rfl <| .token hsensor (by decide +kernel) <|
    .mark (by decide) rfl <| .token spells_nid (by decide +kernel) <|
    .mark (by decide) rfl <| .token hnode (by decide +kernel) <|
    .mark (by decide) rfl lexes_nil

/-- Two options in brackets derive a variable. -/
theorem derives_variable {α : Type} [Quantity α] {ts : List Token} {e : Entity}
    {sensor node : TokenKind} (hsensor : sensor = .identifier ∨ sensor = .number)
    (hnode : node = .identifier ∨ node = .number)
    (hts : ts.map (fun t => (t.kind, t.text)) = [(.openBracket, "["), (.identifier, "sid"),
      (.equals, "="), (sensor, e.sensor), (.comma, ","), (.identifier, "nid"), (.equals, "="),
      (node, e.node), (.closeBracket, "]")]) :
    Derives (α := α) .sum ts
      (.variable (Options.extend ∅ [("sid", e.sensor), ("nid", e.node)])) := by
  simp only [List.map_eq_cons_iff, List.map_eq_nil_iff, Prod.mk.injEq] at hts
  obtain ⟨opening, _, rfl, ⟨hopening, -⟩, sid, _, rfl, ⟨hsid, hsidText⟩, equals, _, rfl,
    ⟨hequals, -⟩, s, _, rfl, ⟨hs, hsText⟩, comma, _, rfl, ⟨hcomma, -⟩, nid, _, rfl,
    ⟨hnid, hnidText⟩, equals', _, rfl, ⟨hequals', -⟩, n, _, rfl, ⟨hn, hnText⟩, closing, _, rfl,
    ⟨hclosing, -⟩, rfl⟩ := hts
  have hfirst : OptionDerives [sid, equals, s] ("sid", e.sensor) :=
    hsidText ▸ hsText ▸ .assign hsid hequals (hs ▸ hsensor)
  have hsecond : OptionDerives [nid, equals', n] ("nid", e.node) :=
    hnidText ▸ hnText ▸ .assign hnid hequals' (hn ▸ hnode)
  refine .lastProduct (.lastOperand (.options hopening
    (.more hfirst hcomma (.one hsecond)) hclosing ?_))
  intro key
  rw [Options.getElem?_extend]
  simp

/-- **The formula for an entity whose names are words** is a variable with the two names as its
options and no others. -/
theorem parse_variableText {α : Type} [Quantity α] {e : Entity} (hsensor : IsWord e.sensor)
    (hnode : IsWord e.node) :
    (parse (variableText e) : Except Fault (Expr α)) =
      .ok (.variable (Options.extend ∅ [("sid", e.sensor), ("nid", e.node)])) := by
  obtain ⟨sensor, hkind, hsensor⟩ := hsensor
  obtain ⟨node, hkind', hnode⟩ := hnode
  obtain ⟨stop, hstop, htokens⟩ := lexes_variableText hsensor hnode 0
  exact parse_eq_ok_iff.2 ⟨stop, hstop,
    reads_of_derives (derives_variable hkind hkind' htokens)⟩

end MetricQuery
