/-
  MetricQuery.Proofs.Formula.Offence
  ──────────────────────────────────
  **A SYNTAX ERROR POINTS AT THE FIRST OFFENCE.**

  Tokens that begin some formula are no mistake yet.  The first offence of a
  formula is the earliest token, the end token included, or character that
  begins no token, behind which no formula goes on any more.  The parser fails
  there and nowhere else: whatever it has read it could still complete, and what
  it refuses nobody could continue.

    • `Mark`                   — tokens and stray characters, in the order in which they stand,
    • `Viable`, `FirstOffence` — beginnings of formulas, and where there is none any more,
    • `Parsing.completable`    — every state of the parser can be brought to an end,
    • `viable_of_reads`        — tokens that the parser reads begin some formula,
    • `admits_of_viable`       — the parser admits whatever a formula goes on with,
    • `stands_of_mem_marks`    — marks stand in the formula where their positions say,
    • `parse_fails_at_first_offence` — the place and the text of a syntax error.
-/
import MetricQuery.Proofs.Formula.Spelling
import MetricQuery.Proofs.Rational

namespace MetricQuery

open Text

/-! ## §1. Marks. -/

/-- What a reader of a formula comes upon: a token, or a character that begins none. -/
inductive Mark where
  | token (t : Token)
  | stray (position : Nat) (c : Char)

namespace Mark

/-- Bytes of the formula before the mark. -/
def position : Mark → Nat
  | token t => t.position
  | stray position _ => position

/-- The part of the formula that the mark is. -/
def text : Mark → String
  | token t => t.text
  | stray _ c => String.singleton c

/-- The mark is the end of the formula. -/
def isEnd : Mark → Bool
  | token t => t.kind == .finish
  | stray _ _ => false

/-- The mark as messages show it: its text, or a word for the end. -/
def display (m : Mark) : String :=
  if m.isEnd then "<end>" else m.text

/-- Kind and text of a token. -/
def piece? : Mark → Option (TokenKind × String)
  | token t => some t.piece
  | stray _ _ => none

theorem display_token (t : Token) : (token t).display = t.display := by
  obtain ⟨kind, text, position⟩ := t
  cases kind <;> rfl

end Mark

/-- Why there are no more tokens: the end token, or a stray character. -/
def Stop.mark : Stop → Mark
  | finish position => .token (Token.finish position)
  | unrecognized position c => .stray position c

/-- Every mark of a stream, up to the end or the first stray character. -/
def Scanned.marks (scanned : Scanned) : List Mark :=
  scanned.tokens.map .token ++ [scanned.stop.mark]

variable (α : Type) [Quantity α]

/-- **The marks begin a formula:** the tokens of some formula that parses begin with tokens of the
same kinds and texts. -/
def Viable (ms : List Mark) : Prop :=
  ∃ (formula : String) (e : Expr α) (us vs : List Token), parse formula = .ok e ∧
    tokenize formula = .ok (us ++ vs) ∧ ms.map Mark.piece? = us.map fun t => some t.piece

/-- **The first offence of a formula:** the marks before it begin some formula, and with it they
begin none. -/
def FirstOffence (formula : String) (m : Mark) : Prop :=
  ∃ before after, (Scanned.ofText formula).marks = before ++ m :: after ∧ Viable α before ∧
    ¬ Viable α (before ++ [m])

variable {α}

theorem Viable.shorter {ms ns : List Mark} (h : Viable α ms) (hns : ns <+: ms) : Viable α ns := by
  obtain ⟨formula, e, us, vs, hparse, htokens, hpieces⟩ := h
  obtain ⟨rest, rfl⟩ := hns
  rw [List.map_append, eq_comm, List.map_eq_append_iff] at hpieces
  obtain ⟨before, after, rfl, hbefore, -⟩ := hpieces
  rw [List.append_assoc] at htokens
  exact ⟨formula, e, before, after ++ vs, hparse, htokens, hbefore.symm⟩

/-- A formula has at most one first offence. -/
theorem FirstOffence.unique {formula : String} {m n : Mark} (hm : FirstOffence α formula m)
    (hn : FirstOffence α formula n) : m = n := by
  obtain ⟨before, after, hmarks, hviable, hnot⟩ := hm
  obtain ⟨before', after', hmarks', hviable', hnot'⟩ := hn
  have hinside : before ++ [m] <+: before' ++ n :: after' :=
    ⟨after, by rw [← hmarks', hmarks, List.append_assoc, List.singleton_append]⟩
  have hinside' : before' ++ [n] <+: before ++ m :: after :=
    ⟨after', by rw [← hmarks, hmarks', List.append_assoc, List.singleton_append]⟩
  -- If one of them came earlier, it would belong to what still begins a formula.
  have hle : before'.length ≤ before.length := by
    by_contra hlt
    refine hnot (hviable'.shorter ?_)
    exact List.prefix_of_prefix_length_le hinside ⟨_, rfl⟩ (by simp; omega)
  have hge : before.length ≤ before'.length := by
    by_contra hlt
    refine hnot' (hviable.shorter ?_)
    exact List.prefix_of_prefix_length_le hinside' ⟨_, rfl⟩ (by simp; omega)
  have heq := List.append_inj (hmarks.symm.trans hmarks') (by omega)
  exact (List.cons.inj heq.2).1

/-! ## §2. Whatever was read can be completed. -/

namespace Parsing

/-- Tokens that can be written lead to a state in which the formula may end. -/
def Completable (p : Parsing α) : Prop :=
  ∃ ts q e, (∀ t ∈ ts, Spells t.kind t.text) ∧ p.Reads ts q ∧ q.result? = some e

variable {p q : Parsing α} {level : Level α} {outer : List (Level α)}

theorem Completable.before {t : Token} (h : q.Completable) (ht : Spells t.kind t.text)
    (hnext : p.next? t = some q) : p.Completable := by
  obtain ⟨ts, r, e, hts, hread, he⟩ := h
  exact ⟨t :: ts, r, e, List.forall_mem_cons.2 ⟨ht, hts⟩, reads_cons.2 ⟨q, hnext, hread⟩, he⟩

/-- After an operand every open parenthesis can be closed. -/
theorem completable_operator (e : Expr α) : Completable ⟨level, outer, .operator e⟩ := by
  have hclose : Spells .closeParen ")" := ⟨1, by decide +kernel⟩
  induction outer generalizing level e with
  | nil => exact ⟨[], _, _, nofun, reads_nil.2 rfl, rfl⟩
  | cons around outer ih =>
      exact (ih (around.signed (level.close e))).before (t := ⟨.closeParen, ")", 0⟩) hclose rfl

theorem completable_optionEnd (options : Options) :
    Completable ⟨level, outer, .optionEnd options⟩ :=
  (completable_operator (level.signed (.variable options))).before (t := ⟨.closeBracket, "]", 0⟩)
    ⟨1, by decide +kernel⟩ rfl

theorem completable_optionValue (options : Options) (key : String) :
    Completable ⟨level, outer, .optionValue options key⟩ :=
  (completable_optionEnd (options.insert key "a")).before (t := ⟨.identifier, "a", 0⟩)
    ⟨1, by decide +kernel⟩ rfl

theorem completable_optionEquals (options : Options) (key : String) :
    Completable ⟨level, outer, .optionEquals options key⟩ :=
  (completable_optionValue options key).before (t := ⟨.equals, "=", 0⟩)
    ⟨1, by decide +kernel⟩ rfl

/-- **Every state of the parser can be brought to an end.** -/
theorem completable (p : Parsing α) : p.Completable := by
  obtain ⟨level, outer, expected⟩ := p
  cases expected with
  | operand =>
      exact (completable_operator (level.signed (.number (numberOf "1")))).before
        (t := ⟨.number, "1", 0⟩) ⟨1, by decide +kernel⟩ rfl
  | operator e => exact completable_operator e
  | optionName options =>
      exact (completable_optionEquals options "a").before (t := ⟨.identifier, "a", 0⟩)
        ⟨1, by decide +kernel⟩ rfl
  | optionEquals options key => exact completable_optionEquals options key
  | optionValue options key => exact completable_optionValue options key
  | optionEnd options => exact completable_optionEnd options

end Parsing

/-! ## §3. Beginnings of formulas. -/

/-- The mark may come next: a token that the state goes on with, or the end token where the formula
may end. -/
def Parsing.Admits (p : Parsing α) : Mark → Prop
  | .token t => if t.kind = .finish then ∃ e, p.result? = some e else ∃ q, p.next? t = some q
  | .stray _ _ => False

theorem Parsing.admits_token {p : Parsing α} {t : Token} (ht : t.kind ≠ .finish) :
    p.Admits (.token t) ↔ ∃ q, p.next? t = some q := by
  unfold Parsing.Admits
  simp [ht]

theorem Parsing.admits_end {p : Parsing α} {t : Token} (ht : t.kind = .finish) :
    p.Admits (.token t) ↔ ∃ e, p.result? = some e := by
  unfold Parsing.Admits
  simp [ht]

theorem map_piece?_token (ts : List Token) :
    (ts.map Mark.token).map Mark.piece? = (ts.map Token.piece).map some := by
  rw [List.map_map, List.map_map]
  rfl

/-- Tokens that the parser reads begin a formula. -/
theorem viable_of_reads {ts : List Token} {p : Parsing α} (hts : ∀ t ∈ ts, Spells t.kind t.text)
    (hread : Parsing.start.Reads ts p) : Viable α (ts.map .token) := by
  obtain ⟨us, q, e, hus, hrest, he⟩ := p.completable
  obtain ⟨formula, vs, position, htokens, hpieces, hparse⟩ :=
    exists_parse_of_reads (List.forall_mem_append.2 ⟨hts, hus⟩)
      (Parsing.reads_append.2 ⟨p, hread, hrest⟩) he
  rw [List.map_append, List.map_eq_append_iff] at hpieces
  obtain ⟨before, after, rfl, hbefore, -⟩ := hpieces
  rw [List.append_assoc] at htokens
  refine ⟨formula, e, before, _, hparse, htokens, ?_⟩
  rw [map_piece?_token, ← hbefore, List.map_map]
  rfl

/-- What stands behind tokens that were read, if it begins a formula with them, may come next. -/
theorem admits_of_viable {ts : List Token} {p : Parsing α} {m : Mark}
    (hread : Parsing.start.Reads ts p) (h : Viable α (ts.map .token ++ [m])) : p.Admits m := by
  obtain ⟨formula, e, us, vs, hparse, htokens, hpieces⟩ := h
  obtain ⟨position, hstop, q, hq, he⟩ := parse_eq_ok_iff.1 hparse
  -- The tokens of that formula begin with copies of those that were read, and a copy of the mark.
  rw [List.map_append, map_piece?_token, eq_comm, List.map_eq_append_iff] at hpieces
  obtain ⟨copies, last, rfl, hcopies, hlast⟩ := hpieces
  obtain ⟨u, rfl, hu⟩ := List.map_eq_singleton_iff.1 hlast
  have hcopied : copies.map Token.piece = ts.map Token.piece := by
    refine (List.map_inj_right fun _ _ => Option.some.inj).1 (Eq.trans ?_ hcopies)
    rw [List.map_map]
    rfl
  have hcopy : Parsing.start.Reads copies p := (Parsing.reads_congr hcopied).2 hread
  have hall : (Scanned.ofText formula).tokens ++ [Token.finish position] = copies ++ [u] ++ vs := by
    have hsame := (tokenize_eq_ok_iff.2 ⟨hstop, rfl⟩).symm.trans htokens
    injection hsame
  cases m with
  | stray place c => cases hu
  | token t =>
      have hpiece : u.piece = t.piece := Option.some.inj hu
      have hkind : u.kind = t.kind := congrArg Prod.fst hpiece
      rcases List.eq_nil_or_concat vs with rfl | ⟨vs, last, rfl⟩
      · -- The copy of the mark is the end token, and the formula ends behind the others.
        rw [List.append_nil] at hall
        obtain ⟨hbefore, hend⟩ := List.append_inj' hall rfl
        obtain rfl := (List.cons.inj hend).1
        rw [hbefore] at hq
        rw [Parsing.admits_end hkind.symm, hcopy.unique hq]
        exact ⟨e, he⟩
      · -- The copy of the mark is a token that is read in its turn.
        rw [List.concat_eq_append, ← List.append_assoc] at hall
        obtain ⟨hbefore, -⟩ := List.append_inj' hall rfl
        have hmem : u ∈ (Scanned.ofText formula).tokens := by rw [hbefore]; simp
        rw [Parsing.admits_token (hkind ▸ (spells_of_mem_tokens hmem).2)]
        rw [hbefore, List.append_assoc, Parsing.reads_append] at hq
        obtain ⟨r, hr, hrest⟩ := hq
        obtain ⟨next, hnext, -⟩ := Parsing.reads_cons.1 hrest
        obtain rfl := hcopy.unique hr
        exact ⟨next, (Parsing.next?_congr hpiece).symm.trans hnext⟩

/-! ## §4. Where the parser fails. -/

/-- Reading fails at the first token that the state before it does not go on with. -/
theorem foldlM_step_eq_error {ts : List Token} {p : Parsing α} {fault : Fault}
    (h : ts.foldlM Parsing.step p = .error fault) :
    ∃ before t after q, ts = before ++ t :: after ∧ p.Reads before q ∧ q.next? t = none ∧
      fault = .syntaxError t.position t.display (q.refusal t) := by
  induction ts generalizing p with
  | nil => cases h
  | cons t ts ih =>
      rw [List.foldlM_cons] at h
      cases hnext : p.next? t with
      | none =>
          refine ⟨[], t, ts, p, rfl, Parsing.reads_nil.2 rfl, hnext, ?_⟩
          rw [show p.step t = p.refuse t by simp [Parsing.step, hnext]] at h
          cases h
          rfl
      | some q =>
          rw [Parsing.step_eq_ok_iff.2 hnext] at h
          obtain ⟨before, u, after, r, rfl, hread, hu, hfault⟩ := ih h
          exact ⟨t :: before, u, after, r, rfl, Parsing.reads_cons.2 ⟨q, hnext, hread⟩, hu, hfault⟩

omit [Quantity α] in
theorem conclude_eq_error {p : Parsing α} {position : Nat} {fault : Fault}
    (h : p.conclude position = .error fault) :
    p.result? = none ∧ fault = .syntaxError (Token.finish position).position
      (Token.finish position).display (p.refusal (Token.finish position)) := by
  unfold Parsing.conclude at h
  cases hresult : p.result? with
  | some e => rw [hresult] at h; cases h
  | none =>
      rw [hresult] at h
      cases h
      exact ⟨rfl, rfl⟩

/-- **A formula that does not parse** has a mark that may not come next, behind tokens that were
read, and the failure is there. -/
theorem parse_eq_error {formula : String} {fault : Fault}
    (h : (parse formula : Except Fault (Expr α)) = .error fault) :
    ∃ (before : List Token) (m : Mark) (after : List Mark) (p : Parsing α) (cause : SyntaxCause),
      (Scanned.ofText formula).marks = before.map .token ++ m :: after ∧
      (∀ t ∈ before, t ∈ (Scanned.ofText formula).tokens) ∧ Parsing.start.Reads before p ∧
      ¬ p.Admits m ∧ fault = .syntaxError m.position m.display cause := by
  unfold parse Parsing.run at h
  unfold Scanned.marks
  cases hread : (Scanned.ofText formula).tokens.foldlM Parsing.step (Parsing.start : Parsing α) with
  | error other =>
      rw [hread] at h
      cases h
      obtain ⟨before, t, after, p, htokens, hbefore, hnext, hfault⟩ := foldlM_step_eq_error hread
      have hmem : t ∈ (Scanned.ofText formula).tokens := by rw [htokens]; simp
      refine ⟨before, .token t, after.map .token ++ [(Scanned.ofText formula).stop.mark], p, _, ?_,
        ?_, hbefore, ?_, Mark.display_token t ▸ hfault⟩
      · rw [htokens, List.map_append, List.map_cons, List.append_assoc, List.cons_append]
      · intro u hu
        rw [htokens]
        exact List.mem_append_left _ hu
      · rw [Parsing.admits_token (spells_of_mem_tokens hmem).2, hnext]
        simp
  | ok p =>
      rw [hread] at h
      cases hstop : (Scanned.ofText formula).stop with
      | unrecognized position c =>
          rw [hstop] at h
          cases h
          exact ⟨_, .stray position c, [], p, _, rfl, fun t ht => ht, hread, id, rfl⟩
      | finish position =>
          rw [hstop] at h
          obtain ⟨hresult, hfault⟩ := conclude_eq_error h
          refine ⟨_, .token (Token.finish position), [], p, _, rfl, fun t ht => ht, hread, ?_,
            hfault⟩
          rw [Parsing.admits_end rfl, hresult]
          simp

/-! ## §5. Where marks stand. -/

/-- The mark is a part of the characters `cs`, the first of which stands at byte `origin`, and it is
where its position says.  Nothing comes after the end. -/
def Mark.Stands (origin : Nat) (cs : List Char) (m : Mark) : Prop :=
  ∃ before after, cs = before ++ m.text.toList ++ after ∧
    m.position = origin + byteCount before ∧ (m.isEnd = true → after = [])

/-- **Marks stand where their positions say.** -/
theorem stands_of_mem_marks {origin : Nat} {cs : List Char} :
    ∀ {m : Mark}, m ∈ (Scanned.ofChars origin cs).marks → m.Stands origin cs := by
  induction origin, cs using Scanned.ofChars.induct with
  | case1 origin cs t rest hscan ih =>
      intro m hm
      obtain ⟨blanks, c, tail, l, rfl, -, hl, rfl, rfl⟩ := scan_eq_token hscan
      rw [← nextLexeme_append hl]
      rw [Scanned.ofChars_of_token hscan] at hm
      rcases List.mem_cons.1 hm with rfl | hm
      · refine ⟨blanks, l.rest, ?_, rfl, ?_⟩
        · rw [Mark.text, String.toList_ofList, List.append_assoc]
        · intro hend
          exact absurd (eq_of_beq hend) (kind_ne_finish_of_nextLexeme hl)
      · obtain ⟨before, after, hrest, hposition, hend⟩ := ih hm
        refine ⟨blanks ++ l.text ++ before, after, ?_, ?_, hend⟩
        · rw [hrest]
          simp only [List.append_assoc]
        · rw [hposition, byteCount_append, byteCount_append, byteCount_eq l.text]
          simp only [Token.stopPosition, Nat.add_assoc]
  | case2 origin cs s rest hscan =>
      intro m hm
      rw [Scanned.ofChars_of_stop hscan] at hm
      obtain rfl := List.mem_singleton.1 hm
      rcases scan_eq_stop hscan with ⟨rfl, -⟩ | ⟨blanks, c, tail, rfl, rfl, -⟩
      · refine ⟨cs, [], ?_, rfl, fun _ => rfl⟩
        simp [Stop.mark, Mark.text, Token.finish]
      · refine ⟨blanks, tail, ?_, rfl, fun hend => Bool.noConfusion hend⟩
        simp [Stop.mark, Mark.text]

/-- **A syntax error points at the first offence.**  A formula on which parsing fails has exactly
one first offence: the earliest mark such that the tokens before it begin a formula that parses, and
no longer do with it.  The failure is a syntax error with the position of this mark, which is the
byte on a character boundary where the mark stands in the formula, and with its text; the end stands
at the length of the formula and is shown as a word. -/
theorem parse_fails_at_first_offence (formula : String) (fault : Fault)
    (h : (parse formula : Except Fault (Expr α)) = .error fault) :
    ∃ (m : Mark) (cause : SyntaxCause), FirstOffence α formula m ∧
      (∀ other, FirstOffence α formula other → other = m) ∧
      fault = .syntaxError m.position m.display cause ∧
      (∃ before after, formula = before ++ m.text ++ after ∧
        m.position = before.utf8ByteSize ∧ (m.isEnd = true → after = "")) ∧
      (⟨m.position⟩ : String.Pos.Raw).IsValid formula ∧ m.position ≤ formula.utf8ByteSize := by
  obtain ⟨before, m, after, p, cause, hmarks, hbefore, hread, hnot, hfault⟩ := parse_eq_error h
  have hoffence : FirstOffence α formula m := by
    refine ⟨_, after, hmarks, viable_of_reads ?_ hread, ?_⟩
    · intro t ht
      exact (spells_of_mem_tokens (hbefore t ht)).1
    · intro hviable
      exact hnot (admits_of_viable hread hviable)
  have hmem : m ∈ (Scanned.ofChars 0 formula.toList).marks := by
    rw [show Scanned.ofChars 0 formula.toList = Scanned.ofText formula from rfl, hmarks]
    simp
  obtain ⟨pre, post, hchars, hposition, hend⟩ := stands_of_mem_marks hmem
  rw [Nat.zero_add, byteCount_eq] at hposition
  have hformula : formula = String.ofList pre ++ m.text ++ String.ofList post := by
    rw [← String.toList_inj, hchars]
    simp
  refine ⟨m, cause, hoffence, fun other hother => hother.unique hoffence, hfault,
    ⟨_, _, hformula, hposition, ?_⟩, ?_, ?_⟩
  · intro hm
    rw [hend hm, String.ofList_nil]
  · refine String.Pos.Raw.isValid_iff_exists_append.2 ⟨String.ofList pre,
      m.text ++ String.ofList post, ?_, ?_⟩
    · rw [hformula, String.append_assoc]
    · rw [hposition]
      rfl
  · rw [hposition, hformula]
    simp only [String.utf8ByteSize_append]
    omega

/-- Behind an open parenthesis an operator stands where an operand is due, after a name that takes
up more bytes than characters.  The stray character after it is not reached. -/
theorem parse_fails_at_second_times :
    ∃ m : Mark, FirstOffence ℚ "[sid=ä] * (2 + * $" m ∧ m.position = 16 ∧ m.display = "*" := by
  have hcomputed : (match (parse "[sid=ä] * (2 + * $" : Except Fault (Expr ℚ)) with
      | .ok _ => none
      | .error fault => some fault) = some (.syntaxError 16 "*" .expectedOperand) := by
    decide +kernel
  split at hcomputed
  · cases hcomputed
  · rename_i fault hparse
    obtain ⟨m, cause, hoffence, -, hfault, -⟩ := parse_fails_at_first_offence _ fault hparse
    cases hcomputed
    injection hfault with hposition hdisplay _
    exact ⟨m, hoffence, hposition.symm, hdisplay.symm⟩

end MetricQuery
