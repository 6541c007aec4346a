/-
  MetricQuery.Proofs.Formula.Printing
  ───────────────────────────────────
  **A TREE IS READ OFF ITS OWN TEXT.**

  A tree is written with parentheses around every operator, which the parser
  drops again, and with its options sorted by name.  The trees that formulas have
  come back from their texts, wherever their numbers are written as numerals that
  are read as these numbers.  Infinity is written as a word, which is no operand,
  and a text with such a word does not parse at all.

    • `Expr.Written`        — the trees that formulas have,
    • `Expr.pieces`         — the tokens that a tree is written as,
    • `lexes_display`       — the text of a tree is cut into these tokens,
    • `derives_pieces`      — tokens of a tree with legible numbers derive the tree,
    • `not_reads_pieces`    — tokens of a tree with a number that is a word are refused,
    • `parse_display_iff`   — which trees come back from their texts.
-/
import MetricQuery.Proofs.Formula.Literals
import MetricQuery.Proofs.Formula.Spelling

namespace MetricQuery

open Text

variable {α : Type} [Quantity α]

/-! ## §1. The trees of formulas. -/

/-- **The trees that formulas have:** numbers come from numerals, and variables have options, with
identifiers as names and words as values. -/
inductive Expr.Written : Expr α → Prop
  | number {text : String} (h : Spells .number text) : Written (.number (Parsing.numberOf text))
  | variable {options : Options} (hne : options.toList ≠ [])
      (h : ∀ o ∈ options.toList, Spells .identifier o.1 ∧ IsWord o.2) : Written (.variable options)
  | binary {left right : Expr α} {op : BinaryOp} (hl : Written left) (hr : Written right) :
      Written (.binary left op right)
  | unary {sign : Sign} {operand : Expr α} (h : Written operand) : Written (.unary sign operand)

theorem mem_of_lastValue {os : List (String × String)} {key value : String}
    (h : lastValue os key = some value) : (key, value) ∈ os := by
  unfold lastValue at h
  obtain ⟨o, ho, rfl⟩ := Option.map_eq_some_iff.1 h
  have hkey : o.1 = key := by simpa using List.find?_some ho
  rw [← hkey]
  exact List.mem_reverse.1 (List.mem_of_find?_eq_some ho)

theorem exists_lastValue {os : List (String × String)} {o : String × String} (ho : o ∈ os) :
    ∃ value, lastValue os o.1 = some value := by
  unfold lastValue
  cases hfind : os.reverse.find? fun p => p.1 == o.1 with
  | some p => exact ⟨p.2, rfl⟩
  | none =>
      have hnone := List.find?_eq_none.1 hfind o (List.mem_reverse.2 ho)
      exact absurd (beq_self_eq_true o.1) hnone

theorem OptionsDerive.words {ts : List Token} {os : List (String × String)}
    (h : OptionsDerive ts os) (hts : ∀ t ∈ ts, Spells t.kind t.text) :
    os ≠ [] ∧ ∀ o ∈ os, Spells .identifier o.1 ∧ IsWord o.2 := by
  have hone : ∀ {ts o}, OptionDerives ts o → (∀ t ∈ ts, Spells t.kind t.text) →
      Spells .identifier o.1 ∧ IsWord o.2 := by
    intro ts o h hts
    cases h with
    | @assign key equals value hk he hv =>
        have hname := hts key (by simp)
        rw [hk] at hname
        exact ⟨hname, value.kind, hv, hts value (by simp)⟩
  induction h with
  | one h =>
      refine ⟨by simp, ?_⟩
      intro o ho
      obtain rfl := List.mem_singleton.1 ho
      exact hone h hts
  | more h hc hs ih =>
      obtain ⟨hfirst, hlater⟩ := List.forall_mem_append.1 hts
      refine ⟨by simp, List.forall_mem_cons.2 ⟨hone h hfirst, ?_⟩⟩
      exact (ih (List.forall_mem_cons.1 hlater).2).2

/-- **Tokens that can be written derive no other trees.** -/
theorem Derives.written {phrase : Phrase} {ts : List Token} {e : Expr α} (h : Derives phrase ts e)
    (hts : ∀ t ∈ ts, Spells t.kind t.text) : e.Written := by
  induction h with
  | lastProduct _ ih => exact ih hts
  | addition _ _ _ _ ihl ihr =>
      obtain ⟨hl, hr⟩ := List.forall_mem_append.1 hts
      exact .binary (ihl hl) (ihr (List.forall_mem_cons.1 hr).2)
  | lastOperand _ ih => exact ih hts
  | multiplication _ _ _ _ ihl ihr =>
      obtain ⟨hl, hr⟩ := List.forall_mem_append.1 hts
      exact .binary (ihl hl) (ihr (List.forall_mem_cons.1 hr).2)
  | group _ _ _ ih =>
      exact ih (List.forall_mem_cons.1 (List.forall_mem_append.1 hts).1).2
  | @options ts t u os options ht h hu ho =>
      obtain ⟨hne, hwords⟩ :=
        h.words (List.forall_mem_cons.1 (List.forall_mem_append.1 hts).1).2
      have hmem : ∀ {o : String × String}, o ∈ options.toList ↔ lastValue os o.1 = some o.2 := by
        intro o
        rw [← ho, ← Std.ExtTreeMap.mem_toList_iff_getElem?_eq_some]
      refine .variable ?_ ?_
      · obtain ⟨o, rest, rfl⟩ := List.exists_cons_of_ne_nil hne
        obtain ⟨value, hvalue⟩ := exists_lastValue (List.mem_cons_self (a := o) (l := rest))
        exact List.ne_nil_of_mem (hmem.2 (show lastValue _ (o.1, value).1 = _ from hvalue))
      · intro o ho
        exact hwords o (mem_of_lastValue (hmem.1 ho))
  | @number t d ht hd =>
      have hspells := hts t (by simp)
      rw [ht] at hspells
      rw [← numberOf_of_numeral hd]
      exact .number hspells
  | sign _ _ ih => exact .unary (ih (List.forall_mem_cons.1 hts).2)

/-- The tree of a formula is written. -/
theorem written_of_parse {formula : String} {e : Expr α} (h : parse formula = .ok e) :
    e.Written := by
  obtain ⟨position, -, hread⟩ := parse_eq_ok_iff.1 h
  exact ((reads_start_iff_derives fun t ht => hasNumeral_of_mem_tokens ht).1 hread).written
    fun t ht => (spells_of_mem_tokens ht).1

/-! ## §2. The tokens that a tree is written as. -/

/-- The kind of a word: a number begins with a digit. -/
def wordKind (text : String) : TokenKind :=
  if text.toList.head?.any isDigit then .number else .identifier

/-- The first character decides between numbers and identifiers. -/
theorem kind_of_nextLexeme {c : Char} {cs : List Char} {l : Lexeme} (h : nextLexeme c cs = some l)
    (hl : l.kind = .identifier ∨ l.kind = .number) :
    l.kind = if isDigit c then .number else .identifier := by
  unfold nextLexeme at h
  cases hmark : punctuation? c with
  | some kind =>
      rw [hmark] at h
      cases h
      unfold punctuation? at hmark
      split at hmark <;> cases hmark <;> rcases hl with hl | hl <;> cases hl
  | none =>
      rw [hmark] at h
      dsimp only at h
      by_cases hdigit : isDigit c = true
      · rw [if_pos hdigit] at h ⊢
        cases h
        rfl
      · rw [if_neg hdigit] at h ⊢
        split at h
        · cases h
          rfl
        · cases h

/-- A word has the kind that its first character says. -/
theorem Spells.eq_wordKind {kind : TokenKind} {text : String} (h : Spells kind text)
    (hkind : kind = .identifier ∨ kind = .number) : kind = wordKind text := by
  obtain ⟨c, cs, hchars, -, hl⟩ := h.exists_nextLexeme
  unfold wordKind
  rw [hchars]
  exact kind_of_nextLexeme hl hkind

theorem spells_of_isWord {text : String} (h : IsWord text) : Spells (wordKind text) text := by
  obtain ⟨kind, hkind, hspells⟩ := h
  exact hspells.eq_wordKind hkind ▸ hspells

/-- The tokens of options, with commas between them. -/
def optionPieces : List (String × String) → List (TokenKind × String)
  | [] => []
  | [o] => [(.identifier, o.1), (.equals, "="), (wordKind o.2, o.2)]
  | o :: p :: os =>
      (.identifier, o.1) :: (.equals, "=") :: (wordKind o.2, o.2) :: (.comma, ",") ::
        optionPieces (p :: os)

/-- **The tokens that a tree is written as.** -/
def Expr.pieces : Expr α → List (TokenKind × String)
  | number value => [(wordKind (Quantity.text value), Quantity.text value)]
  | «variable» options =>
      (.openBracket, "[") :: (optionPieces options.toList ++ [(.closeBracket, "]")])
  | binary left op right =>
      (.openParen, "(") :: (left.pieces ++
        (.operator, String.singleton op.symbol) :: (right.pieces ++ [(.closeParen, ")")]))
  | unary sign operand => (.operator, String.singleton sign.symbol) :: operand.pieces

/-- The text of options is cut into their tokens. -/
theorem lexes_options {os : List (String × String)} (hne : os ≠ [])
    (h : ∀ o ∈ os, Spells .identifier o.1 ∧ IsWord o.2) {rest : List Char}
    {pieces : List (TokenKind × String)} (hrest : Parted rest) (hpieces : Lexes rest pieces) :
    Lexes ((String.intercalate "," (os.map fun (k, v) => k ++ "=" ++ v)).toList ++ rest)
      (optionPieces os ++ pieces) := by
  have hone : ∀ {o : String × String} {rest pieces}, Spells .identifier o.1 ∧ IsWord o.2 →
      Parted rest → Lexes rest pieces → Lexes ((o.1 ++ "=" ++ o.2).toList ++ rest)
        ((.identifier, o.1) :: (.equals, "=") :: (wordKind o.2, o.2) :: pieces) := by
    intro o rest pieces ho hrest hpieces
    rw [show (o.1 ++ "=" ++ o.2).toList ++ rest = o.1.toList ++ '=' :: (o.2.toList ++ rest) by simp]
    exact .token ho.1 (by decide +kernel) <|
      .mark (by decide) rfl (.word (spells_of_isWord ho.2) hrest hpieces)
  match os, hne with
  | [o], _ => exact hone (h o (by simp)) hrest hpieces
  | o :: p :: os, _ =>
      obtain ⟨ho, hlater⟩ := List.forall_mem_cons.1 h
      have hrec := lexes_options (List.cons_ne_nil p os) hlater hrest hpieces
      rw [List.map_cons, List.map_cons, String.intercalate_cons_cons, String.toList_append,
        String.toList_append, List.append_assoc, List.append_assoc]
      exact hone ho (parted_cons (by decide +kernel)) (.mark (by decide) rfl hrec)

/-- **The text of a tree is cut into the tokens of the tree,** before anything that goes on with
none of them, if every number is written as a word. -/
theorem lexes_display {e : Expr α} (he : e.Written)
    (hnumbers : ∀ x ∈ e.numbers, IsWord (Quantity.text x)) {rest : List Char}
    {pieces : List (TokenKind × String)} (hrest : Parted rest) (hpieces : Lexes rest pieces) :
    Lexes (e.display.toList ++ rest) (e.pieces ++ pieces) := by
  have hoperator : ∀ op : BinaryOp, isBlank op.symbol = false ∧
      punctuation? op.symbol = some .operator := by
    intro op
    cases op <;> decide
  have hsign : ∀ sign : Sign, isBlank sign.symbol = false ∧
      punctuation? sign.symbol = some .operator := by
    intro sign
    cases sign <;> decide
  induction he generalizing rest pieces with
  | @number text _ =>
      exact .word (spells_of_isWord (hnumbers _ (by simp [Expr.numbers]))) hrest hpieces
  | @«variable» options hne h =>
      have hclose := Lexes.mark (c := ']') (by decide) rfl hpieces
      have hoptions := lexes_options hne h (parted_cons (by decide +kernel)) hclose
      have hopen := Lexes.mark (c := '[') (by decide) rfl hoptions
      rw [Expr.display, Expr.displayOptions, Expr.pieces]
      simpa using hopen
  | @binary left right op hl hr ihl ihr =>
      -- From the end of the text to its beginning.
      have hclose := Lexes.mark (c := ')') (by decide) rfl hpieces
      have hsecond := ihr (fun x hx => hnumbers x (List.mem_append_right _ hx))
        (parted_cons (by decide +kernel)) hclose
      have hmiddle := Lexes.blank (c := ' ') (by decide) <|
        .mark (hoperator op).1 (hoperator op).2 (.blank (c := ' ') (by decide) hsecond)
      have hfirst := ihl (fun x hx => hnumbers x (List.mem_append_left _ hx))
        (parted_cons (by decide +kernel)) hmiddle
      have hopen := Lexes.mark (c := '(') (by decide) rfl hfirst
      rw [Expr.display, Expr.pieces]
      simpa using hopen
  | @unary sign operand h ih =>
      have hoperand := Lexes.mark (hsign sign).1 (hsign sign).2 (ih hnumbers hrest hpieces)
      rw [Expr.display, Expr.pieces]
      simpa using hoperand

/-! ## §3. Trees with legible numbers. -/

/-- The number is written as a numeral, digits with an optional fraction, that is read as this
number. -/
structure Legible (x : α) : Prop where
  numeral : ∃ c cs, (Quantity.text x).toList = c :: cs ∧ isDigit c = true ∧ IsNumeral (c :: cs)
  value : Parsing.numberOf (Quantity.text x) = x

/-- A numeral is one token. -/
theorem spells_of_isNumeral {c : Char} {cs : List Char} (hdigit : isDigit c = true)
    (h : IsNumeral (c :: cs)) : Spells .number (String.ofList (c :: cs)) := by
  have hl : nextLexeme c cs = some ⟨.number, c :: cs, []⟩ := by
    rw [nextLexeme_of_digit hdigit, splitNumber_of_isNumeral h]
  have hspells := spells_of_nextLexeme (isBlank_of_isWordChar (isWordChar_of_isDigit hdigit)) hl
  exact hspells

theorem Legible.spells {x : α} (h : Legible x) : Spells .number (Quantity.text x) := by
  obtain ⟨c, cs, hchars, hdigit, hnumeral⟩ := h.numeral
  have hspells := spells_of_isNumeral hdigit hnumeral
  rwa [← hchars, String.ofList_toList] at hspells

/-- A legible number is the one that its numeral denotes. -/
theorem Legible.exists_numeral {x : α} (h : Legible x) :
    ∃ d, Numeral (Quantity.text x).toList d ∧ Quantity.ofDecimal d = x := by
  obtain ⟨c, cs, hchars, hdigit, hnumeral⟩ := h.numeral
  obtain ⟨d, hd⟩ := hnumeral.exists_numeral hdigit
  rw [← hchars] at hd
  exact ⟨d, hd, (numberOf_of_numeral hd).symm.trans h.value⟩

theorem isOperator_of_piece {t : Token} {c : Char}
    (h : t.piece = (.operator, String.singleton c)) : t.isOperator c = true := by
  obtain ⟨hkind, htext⟩ := Prod.mk.inj h
  simp [Token.isOperator, hkind, htext]

/-- Options are found by their names in the list of them. -/
theorem lastValue_toList (options : Options) (key : String) :
    options[key]? = lastValue options.toList key := by
  have hmem : ∀ {value}, (key, value) ∈ options.toList ↔ options[key]? = some value :=
    Std.ExtTreeMap.mem_toList_iff_getElem?_eq_some
  cases hlast : lastValue options.toList key with
  | some value => exact hmem.1 (mem_of_lastValue hlast)
  | none =>
      cases hvalue : options[key]? with
      | none => rfl
      | some value =>
          obtain ⟨other, hother⟩ := exists_lastValue (hmem.2 hvalue)
          rw [hlast] at hother
          cases hother

/-- The tokens of one option derive it, whatever comes behind them. -/
theorem optionDerives_pieces {o : String × String} {pieces : List (TokenKind × String)}
    {ts : List Token}
    (hts : ts.map Token.piece =
      (.identifier, o.1) :: (.equals, "=") :: (wordKind o.2, o.2) :: pieces) :
    ∃ first rest, ts = first ++ rest ∧ OptionDerives first o ∧ rest.map Token.piece = pieces := by
  obtain ⟨name, ts, rfl, hname, hts⟩ := List.map_eq_cons_iff.1 hts
  obtain ⟨equals, ts, rfl, hequals, hts⟩ := List.map_eq_cons_iff.1 hts
  obtain ⟨value, ts, rfl, hvalue, hts⟩ := List.map_eq_cons_iff.1 hts
  have htexts : o = (name.text, value.text) :=
    Prod.ext (congrArg Prod.snd hname).symm (congrArg Prod.snd hvalue).symm
  have hkind : value.kind = wordKind o.2 := congrArg Prod.fst hvalue
  refine ⟨[name, equals, value], ts, rfl, ?_, hts⟩
  rw [htexts]
  refine .assign (congrArg Prod.fst hname) (congrArg Prod.fst hequals) ?_
  rw [hkind]
  unfold wordKind
  split <;> simp

/-- The tokens of options derive them. -/
theorem optionsDerive_pieces {os : List (String × String)} (hne : os ≠ []) :
    ∀ {ts : List Token}, ts.map Token.piece = optionPieces os → OptionsDerive ts os := by
  match os, hne with
  | [o], _ =>
      intro ts hts
      obtain ⟨first, rest, rfl, hfirst, hrest⟩ := optionDerives_pieces hts
      rw [List.map_eq_nil_iff.1 hrest, List.append_nil]
      exact .one hfirst
  | o :: p :: os, _ =>
      intro ts hts
      obtain ⟨first, rest, rfl, hfirst, hrest⟩ := optionDerives_pieces hts
      obtain ⟨comma, later, rfl, hcomma, hlater⟩ := List.map_eq_cons_iff.1 hrest
      exact .more hfirst (congrArg Prod.fst hcomma)
        (optionsDerive_pieces (List.cons_ne_nil p os) hlater)

/-- The tokens of an operator between two trees: those of the trees, the operator between them, and
parentheses around. -/
theorem exists_pieces_binary {left right : Expr α} {op : BinaryOp} {ts : List Token}
    (hts : ts.map Token.piece = (Expr.binary left op right).pieces) :
    ∃ t ls o rs u, ts = t :: (ls ++ o :: (rs ++ [u])) ∧ t.kind = .openParen ∧
      ls.map Token.piece = left.pieces ∧ o.isOperator op.symbol = true ∧
      rs.map Token.piece = right.pieces ∧ u.kind = .closeParen := by
  obtain ⟨t, ts, rfl, ht, hts⟩ := List.map_eq_cons_iff.1 hts
  obtain ⟨ls, rest, rfl, hls, hrest⟩ := List.map_eq_append_iff.1 hts
  obtain ⟨o, rest, rfl, ho, hrest⟩ := List.map_eq_cons_iff.1 hrest
  obtain ⟨rs, last, rfl, hrs, hlast⟩ := List.map_eq_append_iff.1 hrest
  obtain ⟨u, rfl, hu⟩ := List.map_eq_singleton_iff.1 hlast
  exact ⟨t, ls, o, rs, u, rfl, congrArg Prod.fst ht, hls, isOperator_of_piece ho, hrs,
    congrArg Prod.fst hu⟩

/-- The tokens of a sign before a tree. -/
theorem exists_pieces_unary {sign : Sign} {operand : Expr α} {ts : List Token}
    (hts : ts.map Token.piece = (Expr.unary sign operand).pieces) :
    ∃ t rest, ts = t :: rest ∧ t.isOperator sign.symbol = true ∧
      rest.map Token.piece = operand.pieces := by
  obtain ⟨t, rest, rfl, ht, hrest⟩ := List.map_eq_cons_iff.1 hts
  exact ⟨t, rest, rfl, isOperator_of_piece ht, hrest⟩

/-- **The tokens of a tree with legible numbers derive the tree.** -/
theorem derives_pieces {e : Expr α} (he : e.Written) (hlegible : ∀ x ∈ e.numbers, Legible x) :
    ∀ {ts : List Token}, ts.map Token.piece = e.pieces → Derives .operand ts e := by
  induction he with
  | @number text _ =>
      intro ts hts
      have hx := hlegible (Parsing.numberOf text) (by simp [Expr.numbers])
      obtain ⟨t, rfl, hpiece⟩ := List.map_eq_singleton_iff.1 hts
      obtain ⟨hkind, htext⟩ := Prod.mk.inj hpiece
      rw [← hx.spells.eq_wordKind (.inr rfl)] at hkind
      obtain ⟨d, hd, hvalue⟩ := hx.exists_numeral
      rw [← hvalue]
      exact .number hkind (htext ▸ hd)
  | @«variable» options hne h =>
      intro ts hts
      obtain ⟨t, ts, rfl, ht, hts⟩ := List.map_eq_cons_iff.1 hts
      obtain ⟨us, vs, rfl, hus, hvs⟩ := List.map_eq_append_iff.1 hts
      obtain ⟨u, rfl, hu⟩ := List.map_eq_singleton_iff.1 hvs
      exact .options (congrArg Prod.fst ht) (optionsDerive_pieces hne hus) (congrArg Prod.fst hu)
        (lastValue_toList options)
  | @binary left right op hl hr ihl ihr =>
      intro ts hts
      obtain ⟨t, ls, o, rs, u, rfl, ht, hls, ho, hrs, hu⟩ := exists_pieces_binary hts
      have hleft := ihl (fun x hx => hlegible x (List.mem_append_left _ hx)) hls
      have hright := ihr (fun x hx => hlegible x (List.mem_append_right _ hx)) hrs
      have hsum : Derives .sum (ls ++ o :: rs) (.binary left op right) := by
        cases op with
        | add =>
            exact .addition (.lastOperand hleft) (.inl rfl) ho
              (.lastProduct (.lastOperand hright))
        | subtract =>
            exact .addition (.lastOperand hleft) (.inr rfl) ho
              (.lastProduct (.lastOperand hright))
        | multiply =>
            exact .lastProduct (.multiplication hleft (.inl rfl) ho
              (.lastOperand hright))
        | divide =>
            exact .lastProduct (.multiplication hleft (.inr rfl) ho
              (.lastOperand hright))
      have hgroup := Derives.group ht hsum hu
      simpa using hgroup
  | @unary sign operand h ih =>
      intro ts hts
      obtain ⟨t, ts, rfl, ht, hts⟩ := exists_pieces_unary hts
      exact .sign ht (ih hlegible hts)

/-! ## §4. Trees with a number that is a word. -/

/-- **The tokens of a tree with a number that is a word are refused** where an operand is due, in
whatever group. -/
theorem not_reads_pieces {e : Expr α} (he : e.Written)
    (hnumbers : ∀ x ∈ e.numbers, Legible x ∨ wordKind (Quantity.text x) = .identifier)
    (hword : ∃ x ∈ e.numbers, wordKind (Quantity.text x) = .identifier) :
    ∀ {ts : List Token} {level : Level α} {outer : List (Level α)} {q : Parsing α},
      ts.map Token.piece = e.pieces → ¬ Parsing.Reads ⟨level, outer, .operand⟩ ts q := by
  induction he with
  | @number text _ =>
      intro ts level outer q hts hread
      obtain ⟨x, hx, hkind⟩ := hword
      obtain rfl := List.mem_singleton.1 hx
      obtain ⟨t, rfl, hpiece⟩ := List.map_eq_singleton_iff.1 hts
      have ht : t.kind = .identifier := (congrArg Prod.fst hpiece).trans hkind
      have hnext := Parsing.reads_singleton.1 hread
      simp [Parsing.next?, Parsing.afterOperandToken?, ht] at hnext
  | «variable» hne h =>
      obtain ⟨x, hx, -⟩ := hword
      cases hx
  | @binary left right op hl hr ihl ihr =>
      intro ts level outer q hts hread
      obtain ⟨t, ls, o, rs, u, rfl, hparen, hls, hoperator, hrs, -⟩ := exists_pieces_binary hts
      have hleftNumbers := fun x hx => hnumbers x (List.mem_append_left right.numbers hx)
      have hrightNumbers := fun x hx => hnumbers x (List.mem_append_right left.numbers hx)
      have hopen : Parsing.next? ⟨level, outer, .operand⟩ t =
          some (⟨Level.empty, level :: outer, .operand⟩ : Parsing α) := by
        simp [Parsing.next?, Parsing.afterOperandToken?, hparen]
      obtain ⟨m, hm, hread⟩ := Parsing.reads_cons.1 hread
      obtain rfl := Option.some.inj (hopen.symm.trans hm)
      obtain ⟨m, hleft, hread⟩ := Parsing.reads_append.1 hread
      by_cases hbad : ∃ x ∈ left.numbers, wordKind (Quantity.text x) = .identifier
      · exact ihl hleftNumbers hbad hls hleft
      · -- The left operand is read to its end, and the right one is refused.
        have hlegible : ∀ x ∈ left.numbers, Legible x := by
          intro x hx
          exact (hleftNumbers x hx).resolve_right fun hkind => hbad ⟨x, hx, hkind⟩
        obtain ⟨after, y, hdelivered, -⟩ :=
          delivers_of_derives (derives_pieces hl hlegible hls) Level.empty (level :: outer) trivial
        obtain rfl := hdelivered.unique hleft
        obtain ⟨m, hm, hread⟩ := Parsing.reads_cons.1 hread
        have hstep : Parsing.next? ⟨after, level :: outer, .operator y⟩ o =
            some ⟨Parsing.operate after y op, level :: outer, .operand⟩ := by
          simp only [Parsing.next?, Parsing.afterOperatorToken?, kind_of_isOperator hoperator,
            operatorOf?_eq_some_iff.2 hoperator, Option.map_some]
        obtain rfl := Option.some.inj (hstep.symm.trans hm)
        obtain ⟨m, hright, -⟩ := Parsing.reads_append.1 hread
        refine ihr hrightNumbers ?_ hrs hright
        obtain ⟨x, hx, hkind⟩ := hword
        rcases List.mem_append.1 hx with hx | hx
        · exact absurd ⟨x, hx, hkind⟩ hbad
        · exact ⟨x, hx, hkind⟩
  | @unary sign operand h ih =>
      intro ts level outer q hts hread
      obtain ⟨t, ts, rfl, hsign, hts⟩ := exists_pieces_unary hts
      obtain ⟨m, hm, hread⟩ := Parsing.reads_cons.1 hread
      have hstep : Parsing.next? ⟨level, outer, .operand⟩ t =
          some ⟨{ level with signs := sign :: level.signs }, outer, .operand⟩ := by
        simp only [Parsing.next?, Parsing.afterOperandToken?, kind_of_isOperator hsign,
          signOf?_eq_some_iff.2 hsign, Option.map_some]
      obtain rfl := Option.some.inj (hstep.symm.trans hm)
      exact ih hnumbers hword hts hread

/-! ## §5. Texts of trees as formulas. -/

/-- The text of a tree whose numbers are words or legible is cut into its tokens. -/
theorem tokens_display {e : Expr α} (he : e.Written)
    (hnumbers : ∀ x ∈ e.numbers, IsWord (Quantity.text x)) :
    ∃ position, (Scanned.ofText e.display).stop = .finish position ∧
      (Scanned.ofText e.display).tokens.map Token.piece = e.pieces := by
  have hlexes := lexes_display he hnumbers (show Parted [] from nofun) lexes_nil
  rw [List.append_nil, List.append_nil] at hlexes
  exact hlexes 0

/-- A numeral by itself is a formula. -/
theorem parse_numeral {text : String} (h : Spells .number text) :
    parse text = .ok (.number (Parsing.numberOf text : α)) := by
  have hlexes := Lexes.word h (show Parted [] from nofun) lexes_nil
  rw [List.append_nil] at hlexes
  obtain ⟨position, hstop, htokens⟩ := hlexes 0
  obtain ⟨t, ht, hpiece⟩ := List.map_eq_singleton_iff.1 htokens
  obtain ⟨hkind, rfl⟩ := Prod.mk.inj hpiece
  have hnumeral : t.HasNumeral := hasNumeral_of_mem_tokens (ht ▸ List.mem_singleton_self t)
  obtain ⟨d, hd⟩ := hnumeral hkind
  refine parse_eq_ok_iff.2 ⟨position, hstop, reads_of_derives ?_⟩
  rw [show (Scanned.ofText t.text).tokens = [t] from ht, numberOf_of_numeral hd]
  exact .lastProduct (.lastOperand (.number hkind hd))

/-- **A tree with legible numbers comes back from its text.** -/
theorem parse_display {e : Expr α} (he : e.Written) (hlegible : ∀ x ∈ e.numbers, Legible x) :
    parse e.display = .ok e := by
  obtain ⟨position, hstop, htokens⟩ :=
    tokens_display he fun x hx => ⟨.number, .inr rfl, (hlegible x hx).spells⟩
  have hderives := derives_pieces he hlegible htokens
  exact parse_eq_ok_iff.2 ⟨position, hstop,
    reads_of_derives (.lastProduct (.lastOperand hderives))⟩

/-- **A tree with a number that is a word does not come back:** its text is no formula. -/
theorem parse_display_fails {e : Expr α} (he : e.Written)
    (hnumbers : ∀ x ∈ e.numbers, Legible x ∨ Spells .identifier (Quantity.text x))
    (hword : ∃ x ∈ e.numbers, Spells .identifier (Quantity.text x)) :
    ∃ fault, (parse e.display : Except Fault (Expr α)) = .error fault := by
  have hkind : ∀ {x : α}, Spells .identifier (Quantity.text x) →
      wordKind (Quantity.text x) = .identifier :=
    fun hx => (hx.eq_wordKind (.inl rfl)).symm
  have hwords : ∀ x ∈ e.numbers, IsWord (Quantity.text x) := by
    intro x hx
    rcases hnumbers x hx with hlegible | hspells
    · exact ⟨.number, .inr rfl, hlegible.spells⟩
    · exact ⟨.identifier, .inl rfl, hspells⟩
  cases hparse : (parse e.display : Except Fault (Expr α)) with
  | error fault => exact ⟨fault, rfl⟩
  | ok f =>
      obtain ⟨position, hstop, htokens⟩ := tokens_display he hwords
      obtain ⟨-, -, q, hread, -⟩ := parse_eq_ok_iff.1 hparse
      obtain ⟨x, hx, hspells⟩ := hword
      refine absurd hread (not_reads_pieces he ?_ ⟨x, hx, hkind hspells⟩ htokens)
      intro y hy
      exact (hnumbers y hy).imp_right hkind

/-! ## §6. Floating-point numbers. -/

/-- **The numbers of a tree are zero or more.** -/
theorem Expr.Written.zero_le {e : Expr Float} (he : e.Written) :
    ∀ x ∈ e.numbers, (0 : Float) ≤ x := by
  induction he with
  | number _ =>
      intro x hx
      obtain rfl := List.mem_singleton.1 hx
      exact zero_le_toFloat _
  | «variable» _ _ => exact nofun
  | binary _ _ ihl ihr => exact List.forall_mem_append.2 ⟨ihl, ihr⟩
  | unary _ ih => exact ih

/-- **A formula comes back from the text of its tree** if and only if all of its numbers are finite,
where finite numbers that are zero or more are written as numerals that are read as these
numbers.  A number that is not finite is written as the word for infinity, and a text with that word
does not parse. -/
theorem parse_display_iff (formula : String) (n : Expr Float) (hn : parse formula = .ok n)
    (hprint : ∀ x ∈ n.numbers, x.isFinite = true → (0 : Float) ≤ x → Legible x) :
    (parse n.display = .ok n ↔ ∀ x ∈ n.numbers, x.isFinite = true) ∧
    ∀ x ∈ n.numbers, x.isFinite = false → Quantity.text x = "inf" ∧
      ∃ fault, (parse n.display : Except Fault (Expr Float)) = .error fault := by
  have hwritten := written_of_parse hn
  have hinfinite : ∀ x ∈ n.numbers, x.isFinite = false → Quantity.text x = "inf" :=
    fun x hx => floatText_of_infinite (hwritten.zero_le x hx)
  have hword : Spells .identifier "inf" := ⟨3, by decide +kernel⟩
  have hfails : ∀ x ∈ n.numbers, x.isFinite = false →
      ∃ fault, (parse n.display : Except Fault (Expr Float)) = .error fault := by
    intro x hx hfinite
    refine parse_display_fails hwritten ?_ ⟨x, hx, hinfinite x hx hfinite ▸ hword⟩
    intro y hy
    cases hy' : y.isFinite with
    | true => exact .inl (hprint y hy hy' (hwritten.zero_le y hy))
    | false => exact .inr (hinfinite y hy hy' ▸ hword)
  refine ⟨⟨?_, ?_⟩, ?_⟩
  · intro hparse x hx
    by_contra hfinite
    obtain ⟨fault, hfault⟩ := hfails x hx (Bool.eq_false_iff.2 hfinite)
    rw [hparse] at hfault
    cases hfault
  · intro hfinite
    exact parse_display hwritten fun x hx => hprint x hx (hfinite x hx) (hwritten.zero_le x hx)
  · exact fun x hx hfinite => ⟨hinfinite x hx hfinite, hfails x hx hfinite⟩

/-- A literal that is too large for the format. -/
def nines : String :=
  String.ofList (List.replicate 311 '9')

theorem parse_nines : parse nines = .ok (.number (1.0 / 0.0 : Float)) := by
  have hdigits : ∀ c ∈ List.replicate 311 '9', isDigit c = true := by
    intro c hc
    rw [List.eq_of_mem_replicate hc]
    decide
  have hspells : Spells .number nines := by
    unfold nines
    rw [List.replicate_succ] at hdigits ⊢
    exact spells_of_isNumeral (by decide) (.whole hdigits)
  have hnumber : (Parsing.numberOf nines : Float) = 1.0 / 0.0 := by
    unfold Parsing.numberOf nines
    rw [String.toList_ofList, List.takeWhile_eq_self_iff.2 hdigits,
      List.dropWhile_eq_nil_iff.2 hdigits]
    decide +kernel
  rw [parse_numeral hspells, hnumber]

/-- Runs of signs, a fraction, and options out of order come back.  A number that is too large does
not. -/
theorem parse_display_signs :
    (∃ n : Expr Float, parse "5 - -1.50 * [sid=a,nid=7]" = .ok n ∧
      n.display = "(5 - (-1.5 * [nid=7,sid=a]))" ∧ parse n.display = .ok n) ∧
    ∃ n : Expr Float, parse nines = .ok n ∧ n.display = "inf" ∧
      ∃ fault, (parse n.display : Except Fault (Expr Float)) = .error fault := by
  have hlegible : ∀ x ∈ [(5 : Float), 1.5], Legible x := by
    intro x hx
    rcases List.mem_cons.1 hx with rfl | hx
    · exact ⟨⟨'5', [], by decide +kernel, by decide, .whole (by simp [isDigit])⟩, by decide +kernel⟩
    · obtain rfl := List.mem_singleton.1 hx
      exact ⟨⟨'1', ['.', '5'], by decide +kernel, by decide,
        .pointed (w := ['1']) (f := ['5']) (by simp [isDigit]) (by simp [isDigit]) (by simp)⟩,
        by decide +kernel⟩
  constructor
  · have hcomputed : (parse "5 - -1.50 * [sid=a,nid=7]" : Except Fault (Expr Float)).toOption.map
        (fun n => (n.display, n.numbers)) = some ("(5 - (-1.5 * [nid=7,sid=a]))", [5, 1.5]) := by
      decide +kernel
    cases hparse : (parse "5 - -1.50 * [sid=a,nid=7]" : Except Fault (Expr Float)) with
    | error fault => rw [hparse] at hcomputed; cases hcomputed
    | ok n =>
        rw [hparse] at hcomputed
        obtain ⟨hdisplay, hnumbers⟩ := Prod.mk.inj (Option.some.inj hcomputed)
        refine ⟨n, rfl, hdisplay, ?_⟩
        refine ((parse_display_iff _ n hparse ?_).1).2 ?_
        · intro x hx _ _
          exact hlegible x (hnumbers ▸ hx)
        · rw [hnumbers]
          decide +kernel
  · have hinfinite : (1.0 / 0.0 : Float).isFinite = false := by decide +kernel
    have hmem : (1.0 / 0.0 : Float) ∈ (Expr.number (1.0 / 0.0 : Float)).numbers := by
      simp [Expr.numbers]
    have hprint : ∀ x ∈ (Expr.number (1.0 / 0.0 : Float)).numbers, x.isFinite = true →
        (0 : Float) ≤ x → Legible x := by
      intro x hx hfinite
      obtain rfl := List.mem_singleton.1 hx
      rw [hinfinite] at hfinite
      cases hfinite
    obtain ⟨htext, hfails⟩ := (parse_display_iff nines _ parse_nines hprint).2 _ hmem hinfinite
    exact ⟨_, parse_nines, htext, hfails⟩

end MetricQuery
