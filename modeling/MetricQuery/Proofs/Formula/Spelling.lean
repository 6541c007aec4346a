/-
  MetricQuery.Proofs.Formula.Spelling
  ───────────────────────────────────
  **TOKENS BY THEMSELVES.**

  A token that was cut out of a formula is one token of the same kind when it
  stands alone.  Tokens can therefore be written down again: with white space
  between them, or side by side where the next one does not begin with a
  character that the last one could go on with.  The parser sees no more of a
  token than its kind and its text, so it takes such a copy as it took the
  formula.

    • `Token.piece`                 — what the parser sees of a token,
    • `nextLexeme_text`             — a lexeme by itself is that lexeme,
    • `scan_eq_token`, `scan_eq_stop` — what is skipped, cut off and left by one scan,
    • `spells_of_mem_tokens`        — the tokens of a formula are tokens by themselves,
    • `Lexes.word`, `Lexes.blank`   — a token or white space before a text,
    • `lexes_spaced`                — tokens with white space between them,
    • `Parsing.reads_congr`         — reading depends on kinds and texts alone,
    • `exists_parse_of_reads`       — tokens that are read, written down again.
-/
import MetricQuery.Proofs.Formula.Lexing

namespace MetricQuery

open Text

/-! ## §1. A lexeme by itself. -/

/-- A numeral has no characters but digits and a point. -/
theorem IsNumeral.digit_or_point {cs : List Char} (h : IsNumeral cs) {c : Char} (hc : c ∈ cs) :
    isDigit c = true ∨ c = '.' := by
  cases h with
  | whole h => exact .inl (h c hc)
  | pointed hw hf _ =>
      rcases List.mem_append.1 hc with hc | hc
      · exact .inl (hw c hc)
      · rcases List.mem_cons.1 hc with hc | hc
        · exact .inr hc
        · exact .inl (hf c hc)

theorem splitNumber_of_isNumeral {cs : List Char} (h : IsNumeral cs) :
    splitNumber cs = (cs, []) := by
  cases h with
  | whole h =>
      unfold splitNumber
      rw [List.takeWhile_eq_self_iff.2 h, List.dropWhile_eq_nil_iff.2 h]
  | @pointed whole fraction hw hf hne =>
      obtain ⟨htake, hdrop⟩ :=
        span_append_cons hw (show isDigit '.' = false by decide) fraction
      unfold splitNumber
      rw [htake, hdrop]
      show (if (fraction.takeWhile isDigit).isEmpty = true then _ else _) = _
      rw [List.takeWhile_eq_self_iff.2 hf, List.dropWhile_eq_nil_iff.2 hf,
        if_neg (by simpa using hne)]

/-- **A lexeme by itself** is that lexeme. -/
theorem nextLexeme_text {c : Char} {cs : List Char} {l : Lexeme} (h : nextLexeme c cs = some l) :
    ∃ tail, l.text = c :: tail ∧ nextLexeme c tail = some ⟨l.kind, c :: tail, []⟩ := by
  rcases nextLexeme_cases c cs with
    ⟨kind, hmark, hl⟩ | ⟨hdigit, hl⟩ | ⟨hdigit, hword, hl⟩ | ⟨-, -, hl⟩
  · rw [hl] at h
    cases h
    exact ⟨[], rfl, nextLexeme_of_mark hmark⟩
  · rw [hl] at h
    cases h
    -- The number is not empty, so it begins with the first character of the text.
    have hne : (splitNumber (c :: cs)).1 ≠ [] := splitNumber_fst_ne_nil hdigit
    obtain ⟨d, tail, htail⟩ := List.exists_cons_of_ne_nil hne
    have happend := splitNumber_append (c :: cs)
    rw [htail] at happend
    obtain ⟨rfl, -⟩ := List.cons.inj happend
    refine ⟨tail, htail, ?_⟩
    rw [nextLexeme_of_digit hdigit, ← htail, splitNumber_of_isNumeral (isNumeral_splitNumber _)]
  · rw [hl] at h
    cases h
    have hrun : ∀ d ∈ cs.takeWhile isWordChar, isWordChar d = true :=
      fun d hd => List.mem_takeWhile_imp hd
    refine ⟨_, rfl, ?_⟩
    rw [nextLexeme_of_word hdigit hword, List.takeWhile_eq_self_iff.2 hrun,
      List.dropWhile_eq_nil_iff.2 hrun]
  · rw [hl] at h
    cases h

/-- The end token is cut out of no text. -/
theorem kind_ne_finish_of_nextLexeme {c : Char} {cs : List Char} {l : Lexeme}
    (h : nextLexeme c cs = some l) : l.kind ≠ .finish := by
  rcases nextLexeme_cases c cs with ⟨kind, hmark, hl⟩ | ⟨-, hl⟩ | ⟨-, -, hl⟩ | ⟨-, -, hl⟩
  · rw [hl] at h
    cases h
    unfold punctuation? at hmark
    split at hmark <;> cases hmark <;> simp
  · rw [hl] at h
    cases h
    simp
  · rw [hl] at h
    cases h
    simp
  · rw [hl] at h
    cases h

/-! ## §2. The tokens of a formula. -/

/-- What is left after white space does not begin with white space. -/
theorem isBlank_of_dropWhile {cs tail : List Char} {c : Char}
    (h : cs.dropWhile isBlank = c :: tail) : isBlank c = false := by
  have hhead := List.dropWhile_get_zero_not isBlank cs (by rw [h]; simp)
  simpa [h] using hhead

/-- A token and what it was cut out of: white space is skipped before it. -/
theorem scan_eq_token {position : Nat} {cs rest : List Char} {t : Token}
    (h : scan position cs = .token t rest) :
    ∃ blanks c tail l, cs = blanks ++ c :: tail ∧ isBlank c = false ∧
      nextLexeme c tail = some l ∧ rest = l.rest ∧
      t = ⟨l.kind, String.ofList l.text, position + byteCount blanks⟩ := by
  have hcs := List.takeWhile_append_dropWhile (p := isBlank) (l := cs)
  unfold scan at h
  dsimp only at h
  split at h
  · cases h
  · rename_i c tail hdrop
    split at h
    · rename_i l hl
      cases h
      exact ⟨cs.takeWhile isBlank, c, tail, l, by rw [← hdrop, hcs], isBlank_of_dropWhile hdrop,
        hl, rfl, rfl⟩
    · cases h

/-- Where there is no token, white space is left alone, or a character that begins none stands
after it. -/
theorem scan_eq_stop {position : Nat} {cs rest : List Char} {s : Stop}
    (h : scan position cs = .stop s rest) :
    s = .finish (position + byteCount cs) ∧ rest = [] ∨
      ∃ blanks c tail, cs = blanks ++ c :: tail ∧
        s = .unrecognized (position + byteCount blanks) c ∧ rest = c :: tail ∧
        isBlank c = false ∧ nextLexeme c tail = none := by
  have hcs := List.takeWhile_append_dropWhile (p := isBlank) (l := cs)
  unfold scan at h
  dsimp only at h
  split at h
  · rename_i hdrop
    cases h
    rw [hdrop, List.append_nil] at hcs
    exact .inl ⟨by rw [hcs], rfl⟩
  · rename_i c tail hdrop
    split at h
    · cases h
    · rename_i hl
      cases h
      exact .inr ⟨cs.takeWhile isBlank, c, tail, by rw [← hdrop, hcs], rfl, rfl,
        isBlank_of_dropWhile hdrop, hl⟩

/-- A lexeme is a token by itself. -/
theorem spells_of_nextLexeme {c : Char} {cs : List Char} {l : Lexeme} (hblank : isBlank c = false)
    (h : nextLexeme c cs = some l) : Spells l.kind (String.ofList l.text) := by
  obtain ⟨tail, htext, hself⟩ := nextLexeme_text h
  have hscan : scan 0 (c :: tail) = .token ⟨l.kind, String.ofList (c :: tail), 0⟩ [] :=
    scan_of_nextLexeme hblank hself
  have hend : ∀ position, Scanned.ofChars position [] = ⟨[], .finish position⟩ :=
    fun position => Scanned.ofChars_of_stop rfl
  have htokens : Scanned.ofText (String.ofList l.text) =
      ⟨[⟨l.kind, String.ofList l.text, 0⟩],
        .finish (Token.stopPosition ⟨l.kind, String.ofList l.text, 0⟩)⟩ := by
    unfold Scanned.ofText
    rw [htext, String.toList_ofList, Scanned.ofChars_of_token hscan, hend]
  refine ⟨Token.stopPosition ⟨l.kind, String.ofList l.text, 0⟩, ?_⟩
  unfold tokenize
  rw [htokens]
  rfl

/-- **The tokens of a formula are tokens by themselves,** and none of them is the end token. -/
theorem spells_of_mem_tokens {position : Nat} {cs : List Char} : ∀ {t : Token},
    t ∈ (Scanned.ofChars position cs).tokens → Spells t.kind t.text ∧ t.kind ≠ .finish := by
  induction position, cs using Scanned.ofChars.induct with
  | case1 position cs t rest hscan ih =>
      intro u hu
      rw [Scanned.ofChars_of_token hscan] at hu
      rcases List.mem_cons.1 hu with rfl | hu
      · obtain ⟨blanks, c, tail, l, -, hblank, hl, -, rfl⟩ := scan_eq_token hscan
        exact ⟨spells_of_nextLexeme hblank hl, kind_ne_finish_of_nextLexeme hl⟩
      · exact ih hu
  | case2 position cs s rest hscan =>
      intro u hu
      rw [Scanned.ofChars_of_stop hscan] at hu
      cases hu

/-! ## §3. Texts put together. -/

/-- Nothing follows, or a character that no token goes on with. -/
def Parted (rest : List Char) : Prop :=
  ∀ d ∈ rest.head?, Ends d

theorem parted_cons {c : Char} {cs : List Char} (h : Ends c) : Parted (c :: cs) := by
  intro d hd
  cases hd
  exact h

/-- **A word is a token** of every text in which nothing goes on with it. -/
theorem Lexes.word {kind : TokenKind} {text : String} {rest : List Char}
    {pieces : List (TokenKind × String)} (htext : Spells kind text) (hrest : Parted rest)
    (h : Lexes rest pieces) : Lexes (text.toList ++ rest) ((kind, text) :: pieces) := by
  cases rest with
  | cons d rest => exact .token htext (hrest d rfl) h
  | nil =>
      obtain ⟨c, cs, hchars, hblank, hl⟩ := htext.exists_nextLexeme
      have hcons := Lexes.cons hblank hl h
      rwa [← hchars, String.ofList_toList, ← List.append_nil text.toList] at hcons

theorem byteCount_eq (cs : List Char) : byteCount cs = (String.ofList cs).utf8ByteSize := by
  have hfrom : ∀ (cs : List Char) (n : Nat),
      cs.foldl (fun n c => n + c.utf8Size) n = n + (String.ofList cs).utf8ByteSize := by
    intro cs
    induction cs with
    | nil => simp
    | cons c cs ih =>
        intro n
        rw [List.foldl_cons, ih, String.ofList_cons, String.utf8ByteSize_append,
          String.utf8ByteSize_singleton, Nat.add_assoc]
  rw [byteCount, hfrom, Nat.zero_add]

theorem byteCount_append (cs ds : List Char) :
    byteCount (cs ++ ds) = byteCount cs + byteCount ds := by
  simp only [byteCount_eq, String.ofList_append, String.utf8ByteSize_append]

/-- What is found depends on the scan alone. -/
theorem Scanned.ofChars_congr {position position' : Nat} {cs cs' : List Char}
    (h : scan position cs = scan position' cs') :
    Scanned.ofChars position cs = Scanned.ofChars position' cs' := by
  cases hscan : scan position' cs' with
  | token t rest => rw [ofChars_of_token (h.trans hscan), ofChars_of_token hscan]
  | stop s rest => rw [ofChars_of_stop (h.trans hscan), ofChars_of_stop hscan]

/-- A scan skips white space. -/
theorem scan_cons_of_isBlank {position : Nat} {c : Char} {rest : List Char}
    (hc : isBlank c = true) :
    scan position (c :: rest) = scan (position + byteCount [c]) rest := by
  unfold scan
  dsimp only
  rw [List.takeWhile_cons_of_pos hc, List.dropWhile_cons_of_pos hc,
    show c :: rest.takeWhile isBlank = [c] ++ rest.takeWhile isBlank from rfl, byteCount_append,
    Nat.add_assoc]

/-- White space before a text is skipped. -/
theorem Lexes.blank {c : Char} {rest : List Char} {pieces : List (TokenKind × String)}
    (hc : isBlank c = true) (h : Lexes rest pieces) : Lexes (c :: rest) pieces := by
  intro position
  rw [Scanned.ofChars_congr (scan_cons_of_isBlank hc)]
  exact h (position + byteCount [c])

/-- Tokens with a blank after each. -/
def spaced (pieces : List (TokenKind × String)) : List Char :=
  pieces.flatMap fun piece => piece.2.toList ++ [' ']

/-- **Tokens with blanks between them** are read as these tokens. -/
theorem lexes_spaced {pieces : List (TokenKind × String)}
    (h : ∀ piece ∈ pieces, Spells piece.1 piece.2) : Lexes (spaced pieces) pieces := by
  induction pieces with
  | nil => exact lexes_nil
  | cons piece pieces ih =>
      obtain ⟨hpiece, hpieces⟩ := List.forall_mem_cons.1 h
      have hends : Ends ' ' := by decide +kernel
      rw [spaced, List.flatMap_cons, List.append_assoc]
      exact .token hpiece hends (.blank (by decide) (ih hpieces))

/-! ## §4. What the parser sees. -/

/-- What the parser sees of a token. -/
def Token.piece (t : Token) : TokenKind × String :=
  (t.kind, t.text)

namespace Parsing

variable {α : Type} [Quantity α] {p q : Parsing α}

theorem next?_congr {t u : Token} (h : t.piece = u.piece) : p.next? t = p.next? u := by
  obtain ⟨kind, text, position⟩ := t
  obtain ⟨kind', text', position'⟩ := u
  obtain ⟨rfl, rfl⟩ := Prod.mk.inj h
  rfl

/-- **Reading depends on kinds and texts alone,** not on where the tokens stand. -/
theorem reads_congr {ts us : List Token} (h : ts.map Token.piece = us.map Token.piece) :
    p.Reads ts q ↔ p.Reads us q := by
  induction ts generalizing us p with
  | nil =>
      rw [List.map_nil, eq_comm, List.map_eq_nil_iff] at h
      rw [h]
  | cons t ts ih =>
      obtain ⟨u, us, rfl, hpiece, hpieces⟩ := List.map_eq_cons_iff.1 h.symm
      simp only [reads_cons, next?_congr hpiece.symm, ih hpieces.symm]

end Parsing

/-- **A formula for tokens:** where the parser may read tokens to the end, there is a formula that
is cut into these tokens and has the tree. -/
theorem exists_parse_of_reads {α : Type} [Quantity α] {ts : List Token} {p : Parsing α}
    {e : Expr α} (hts : ∀ t ∈ ts, Spells t.kind t.text) (hread : Parsing.start.Reads ts p)
    (he : p.result? = some e) :
    ∃ formula us position, tokenize formula = .ok (us ++ [Token.finish position]) ∧
      us.map Token.piece = ts.map Token.piece ∧ parse formula = .ok e := by
  have hpieces : ∀ piece ∈ ts.map Token.piece, Spells piece.1 piece.2 := by
    intro piece hpiece
    obtain ⟨t, ht, rfl⟩ := List.mem_map.1 hpiece
    exact hts t ht
  obtain ⟨position, hstop, htokens⟩ := lexes_spaced hpieces 0
  have hscanned : Scanned.ofText (String.ofList (spaced (ts.map Token.piece))) =
      Scanned.ofChars 0 (spaced (ts.map Token.piece)) := by
    rw [Scanned.ofText, String.toList_ofList]
  rw [← hscanned] at hstop htokens
  exact ⟨_, _, position, tokenize_eq_ok_iff.2 ⟨hstop, rfl⟩, htokens,
    parse_eq_ok_iff.2 ⟨position, hstop, p, (Parsing.reads_congr htokens).2 hread, he⟩⟩

end MetricQuery
