/-
  MetricQuery.Proofs.Formula.Respacing
  ────────────────────────────────────
  **WHITE SPACE BETWEEN TOKENS.**

  The tokens of a formula can be written down anew with any white space around
  them, as long as there is some between two of them.  Each is read as the token
  that it was, since white space goes on with none.  The parser then takes the
  one formula as it takes the other: it sees kinds and texts, and where it stops
  it stops at the same token.

    • `respaced`, `Gaps`    — texts with gaps around them, and what the gaps may be,
    • `ends_of_isBlank`     — no token goes on with white space,
    • `lexes_respaced`      — tokens with gaps around them are read as these tokens,
    • `StopsAlike`          — two readings that come to the same state, or stop at the same token,
    • `foldlM_step_alike`   — tokens with the same pieces are read alike,
    • `parse_alike`         — and so are formulas with such tokens,
    • `parse_respaced`      — **white space between tokens is irrelevant.**
-/
import MetricQuery.Proofs.Formula.Offence
import MetricQuery.Proofs.Rational

namespace MetricQuery

open Text

/-! ## §1. Texts with gaps around them. -/

/-- Texts one after the other, with a gap before the first one and after each. -/
def respaced (gap : Nat → String) : List String → String
  | [] => gap 0
  | text :: texts => gap 0 ++ text ++ respaced (fun i => gap (i + 1)) texts

/-- What the gaps around so many tokens may be: runs of white space, of which those between two
tokens are not empty. -/
structure Gaps (gap : Nat → String) (count : Nat) : Prop where
  blank : ∀ i ≤ count, ∀ c ∈ (gap i).toList, isBlank c = true
  inner : ∀ i, 0 < i → i < count → gap i ≠ ""

/-- Behind the first token the gaps are still such gaps. -/
theorem Gaps.tail {gap : Nat → String} {count : Nat} (h : Gaps gap (count + 1)) :
    Gaps (fun i => gap (i + 1)) count where
  blank i hi := h.blank (i + 1) (by omega)
  inner i _ hi := h.inner (i + 1) (by omega) (by omega)

/-- **No token goes on with white space.** -/
theorem ends_of_isBlank {c : Char} (h : isBlank c = true) : Ends c := by
  have hword : isWordChar c = false := by
    rw [Bool.eq_false_iff]
    intro hword
    rw [isBlank_of_isWordChar hword] at h
    cases h
  refine ⟨hword, ?_, ?_⟩
  · rw [Bool.eq_false_iff]
    intro hdigit
    rw [isWordChar_of_isDigit hdigit] at hword
    cases hword
  · rintro rfl
    exact absurd h (by decide)

/-- A run of white space before a text is skipped. -/
theorem Lexes.blanks {blanks rest : List Char} {pieces : List (TokenKind × String)}
    (hblanks : ∀ c ∈ blanks, isBlank c = true) (h : Lexes rest pieces) :
    Lexes (blanks ++ rest) pieces := by
  induction blanks with
  | nil => exact h
  | cons c blanks ih =>
      obtain ⟨hc, hblanks⟩ := List.forall_mem_cons.1 hblanks
      exact .blank hc (ih hblanks)

theorem respaced_toList_cons (gap : Nat → String) (text : String) (texts : List String) :
    (respaced gap (text :: texts)).toList =
      (gap 0).toList ++ (text.toList ++ (respaced (fun i => gap (i + 1)) texts).toList) := by
  rw [respaced, String.toList_append, String.toList_append, List.append_assoc]

/-- Texts with a gap before them are parted from what stands before the gap, and so is a gap
alone, even if it is empty. -/
theorem parted_respaced {gap : Nat → String} {texts : List String}
    (hblank : ∀ c ∈ (gap 0).toList, isBlank c = true) (hgap : texts ≠ [] → gap 0 ≠ "") :
    Parted (respaced gap texts).toList := by
  cases texts with
  | nil =>
      intro d hd
      exact ends_of_isBlank (hblank d (List.mem_of_mem_head? hd))
  | cons text texts =>
      rw [respaced_toList_cons]
      cases hchars : (gap 0).toList with
      | nil => exact absurd (String.toList_eq_nil_iff.1 hchars) (hgap (List.cons_ne_nil _ _))
      | cons c blanks =>
          rw [List.cons_append]
          exact parted_cons (ends_of_isBlank (hblank c (by rw [hchars]; exact List.mem_cons_self)))

/-- **Tokens with gaps around them** are read as these tokens. -/
theorem lexes_respaced {gap : Nat → String} {pieces : List (TokenKind × String)}
    (h : ∀ piece ∈ pieces, Spells piece.1 piece.2) (hgap : Gaps gap pieces.length) :
    Lexes (respaced gap (pieces.map Prod.snd)).toList pieces := by
  induction pieces generalizing gap with
  | nil =>
      have hlexes := Lexes.blanks (hgap.blank 0 (Nat.le_refl 0)) lexes_nil
      rwa [List.append_nil] at hlexes
  | cons piece pieces ih =>
      obtain ⟨hpiece, hpieces⟩ := List.forall_mem_cons.1 h
      -- The gap behind a token may be empty only if it is the last one, and then nothing follows.
      have hparted : Parted (respaced (fun i => gap (i + 1)) (pieces.map Prod.snd)).toList := by
        refine parted_respaced (hgap.blank 1 (by simp)) ?_
        intro hne
        have hpos : 0 < pieces.length :=
          List.length_pos_iff.2 fun hnil => hne (by rw [hnil, List.map_nil])
        exact hgap.inner 1 Nat.one_pos (by rw [List.length_cons]; omega)
      rw [List.map_cons, respaced_toList_cons]
      exact .blanks (hgap.blank 0 (Nat.zero_le _)) (.word hpiece hparted (ih hpieces hgap.tail))

/-! ## §2. Tokens that are read alike. -/

section Alike

variable {α : Type} [Quantity α]

omit [Quantity α] in
/-- What is expected in place of a token depends on its kind alone. -/
theorem Parsing.refusal_congr {p : Parsing α} {t u : Token} (h : t.piece = u.piece) :
    p.refusal t = p.refusal u := by
  have hkind : t.kind = u.kind := congrArg Prod.fst h
  unfold Parsing.refusal
  rw [hkind]

/-- Reading stops at a token that the state before it does not go on with. -/
theorem foldlM_step_of_next?_eq_none {p q : Parsing α} {before after : List Token} {t : Token}
    (hread : p.Reads before q) (hnext : q.next? t = none) :
    (before ++ t :: after).foldlM Parsing.step p =
      .error (.syntaxError t.position t.display (q.refusal t)) := by
  have hstep : q.step t = q.refuse t := by
    unfold Parsing.step
    rw [hnext]
  rw [List.foldlM_append, show before.foldlM Parsing.step p = .ok q from hread]
  show (t :: after).foldlM Parsing.step q = _
  rw [List.foldlM_cons, hstep]
  rfl

/-- Two computations stop at tokens with the same number, for the same cause. -/
def StopsAlike {β : Type} (ts us : List Token) (x y : Except Fault β) : Prop :=
  ∃ (i : Nat) (t u : Token) (cause : SyntaxCause), ts[i]? = some t ∧ us[i]? = some u ∧
    x = .error (.syntaxError t.position t.display cause) ∧
    y = .error (.syntaxError u.position u.display cause)

/-- **Tokens with the same pieces are read alike:** to the same state, or up to the same token. -/
theorem foldlM_step_alike {ts us : List Token} (h : ts.map Token.piece = us.map Token.piece)
    (p : Parsing α) :
    (∃ q, p.Reads ts q ∧ p.Reads us q) ∨
      StopsAlike ts us (ts.foldlM Parsing.step p) (us.foldlM Parsing.step p) := by
  cases hread : ts.foldlM Parsing.step p with
  | ok q => exact Or.inl ⟨q, hread, (Parsing.reads_congr h).1 hread⟩
  | error fault =>
      -- The copies of the tokens before the refused one lead to the same state, which refuses its
      -- copy as well.
      obtain ⟨before, t, after, q, rfl, hbefore, hnext, rfl⟩ := foldlM_step_eq_error hread
      rw [List.map_append, List.map_cons, eq_comm, List.map_eq_append_iff] at h
      obtain ⟨before', rest, rfl, hcopied, hrest⟩ := h
      obtain ⟨u, after', rfl, hpiece, -⟩ := List.map_eq_cons_iff.1 hrest
      have hlength : before'.length = before.length := by
        rw [← List.length_map Token.piece, hcopied, List.length_map]
      refine Or.inr ⟨before.length, t, u, q.refusal t, ?_, ?_, rfl, ?_⟩
      · rw [List.getElem?_append_right (Nat.le_refl _), Nat.sub_self, List.getElem?_cons_zero]
      · rw [← hlength, List.getElem?_append_right (Nat.le_refl _), Nat.sub_self,
          List.getElem?_cons_zero]
      · rw [← Parsing.refusal_congr hpiece]
        exact foldlM_step_of_next?_eq_none ((Parsing.reads_congr hcopied).2 hbefore)
          ((Parsing.next?_congr hpiece).trans hnext)

/-- The tokens of a formula are those of its stream and the end token. -/
theorem exists_of_tokenize_eq_ok {formula : String} {all : List Token}
    (h : tokenize formula = .ok all) : ∃ ts position, all = ts ++ [Token.finish position] := by
  unfold tokenize at h
  dsimp only at h
  split at h
  · cases h
    exact ⟨_, _, rfl⟩
  · cases h

/-- A formula with tokens is parsed by reading them, and then its end. -/
theorem parse_of_tokenize {formula : String} {ts : List Token} {position : Nat}
    (h : tokenize formula = .ok (ts ++ [Token.finish position])) :
    (parse formula : Except Fault (Expr α)) =
      ts.foldlM Parsing.step Parsing.start >>= fun p => p.conclude position := by
  obtain ⟨hstop, htokens⟩ := tokenize_eq_ok_iff.1 h
  unfold parse Parsing.run
  rw [hstop, htokens]

/-- **Formulas with the same pieces are parsed alike:** to the same tree, or with a failure at the
same token and for the same cause. -/
theorem parse_alike {formula other : String} {ts us : List Token} {position position' : Nat}
    (h : tokenize formula = .ok (ts ++ [Token.finish position]))
    (h' : tokenize other = .ok (us ++ [Token.finish position']))
    (hpieces : ts.map Token.piece = us.map Token.piece) :
    (∃ e : Expr α, parse formula = .ok e ∧ parse other = .ok e) ∨
      StopsAlike (ts ++ [Token.finish position]) (us ++ [Token.finish position'])
        (parse formula : Except Fault (Expr α)) (parse other) := by
  have hlength : us.length = ts.length := by
    rw [← List.length_map Token.piece, ← hpieces, List.length_map]
  rw [parse_of_tokenize h, parse_of_tokenize h']
  rcases foldlM_step_alike hpieces (Parsing.start : Parsing α) with
    ⟨q, hread, hread'⟩ | ⟨i, t, u, cause, ht, hu, hfault, hfault'⟩
  · rw [show ts.foldlM Parsing.step Parsing.start = .ok q from hread,
      show us.foldlM Parsing.step Parsing.start = .ok q from hread']
    -- Both come to the end in one state, which may end there or not.
    show (∃ e, q.conclude position = .ok e ∧ q.conclude position' = .ok e) ∨
      StopsAlike _ _ (q.conclude position) (q.conclude position')
    cases hresult : q.result? with
    | some e =>
        left
        refine ⟨e, ?_, ?_⟩ <;> rw [Parsing.conclude, hresult]
    | none =>
        right
        refine ⟨ts.length, Token.finish position, Token.finish position',
          q.refusal (Token.finish position), ?_, ?_, ?_, ?_⟩
        · exact List.getElem?_concat_length
        · rw [← hlength]
          exact List.getElem?_concat_length
        · rw [Parsing.conclude, hresult]
          rfl
        · rw [Parsing.conclude, hresult]
          rfl
  · refine Or.inr ⟨i, t, u, cause, ?_, ?_, ?_, ?_⟩
    · rw [List.getElem?_append_left (List.getElem?_eq_some_iff.1 ht).1, ht]
    · rw [List.getElem?_append_left (List.getElem?_eq_some_iff.1 hu).1, hu]
    · rw [hfault]
      rfl
    · rw [hfault']
      rfl

/-! ## §3. White space between tokens. -/

/-- **White space between tokens is irrelevant.**  The tokens of a formula, its end token apart, are
written down anew with gaps around them.  They are read as tokens of the same kinds and texts, and
both formulas have the same tree, or parsing fails on both at tokens with the same number and for
the same cause. -/
theorem parse_respaced {formula : String} {all : List Token} {gap : Nat → String}
    (hall : tokenize formula = .ok all) (hgap : Gaps gap all.dropLast.length) :
    ∃ us, tokenize (respaced gap (all.dropLast.map Token.text)) = .ok us ∧
      us.map Token.piece = all.map Token.piece ∧
      ((∃ e : Expr α, parse formula = .ok e ∧
          parse (respaced gap (all.dropLast.map Token.text)) = .ok e) ∨
        StopsAlike all us (parse formula : Except Fault (Expr α))
          (parse (respaced gap (all.dropLast.map Token.text)))) := by
  obtain ⟨ts, position, rfl⟩ := exists_of_tokenize_eq_ok hall
  rw [List.dropLast_concat] at hgap ⊢
  have hspells : ∀ piece ∈ ts.map Token.piece, Spells piece.1 piece.2 := by
    intro piece hpiece
    obtain ⟨t, ht, rfl⟩ := List.mem_map.1 hpiece
    rw [← (tokenize_eq_ok_iff.1 hall).2] at ht
    exact (spells_of_mem_tokens ht).1
  have htexts : (ts.map Token.piece).map Prod.snd = ts.map Token.text := by
    rw [List.map_map]
    rfl
  obtain ⟨position', hstop, hpieces⟩ :=
    lexes_respaced hspells (by rwa [List.length_map]) 0
  rw [htexts] at hstop hpieces
  have hother := tokenize_eq_ok_iff.2 ⟨hstop, rfl⟩
  refine ⟨_, hother, ?_, parse_alike hall hother hpieces.symm⟩
  rw [List.map_append, List.map_append]
  exact congrArg (· ++ [(TokenKind.finish, "")]) hpieces

end Alike

/-- A wide blank before the first token, a new line and a blank behind it, nothing at the end. -/
def wideGap : Nat → String
  | 0 => "\u3000"
  | 1 => "\n "
  | _ => ""

/-- The tokens of a number right before a letter of two bytes. -/
def adjacentTokens : List Token :=
  [⟨.number, "2", 0⟩, ⟨.identifier, "ä", 1⟩, Token.finish 3]

/-- A number and a name side by side stay two tokens when they are moved apart, and parsing fails
at the name both times. -/
theorem parse_respaced_adjacent :
    ∃ us, tokenize "\u30002\n ä" = .ok us ∧
      us.map Token.piece = adjacentTokens.map Token.piece ∧
      StopsAlike adjacentTokens us (parse "2ä" : Except Fault (Expr ℚ)) (parse "\u30002\n ä") := by
  have hall : tokenize "2ä" = .ok adjacentTokens := by decide +kernel
  have hgap : Gaps wideGap adjacentTokens.dropLast.length := by
    have hblank : ∀ text ∈ ["\u3000", "\n ", ""], text.toList.all isBlank = true := by
      decide +kernel
    constructor
    · intro i _
      refine List.all_eq_true.1 (hblank _ ?_)
      unfold wideGap
      split <;> simp
    · intro i hpos hlt
      obtain rfl : i = 1 := by
        have hlt : i < 2 := hlt
        omega
      decide
  have hrespaced :
      respaced wideGap (adjacentTokens.dropLast.map Token.text) = "\u30002\n ä" := by
    decide +kernel
  have hfails : (match (parse "2ä" : Except Fault (Expr ℚ)) with
      | .ok _ => none
      | .error fault => some fault) = some (.syntaxError 1 "ä" .expectedOperator) := by
    decide +kernel
  obtain ⟨us, hus, hpieces, halike⟩ := parse_respaced (α := ℚ) hall hgap
  rw [hrespaced] at hus halike
  refine ⟨us, hus, hpieces, ?_⟩
  rcases halike with ⟨e, he, -⟩ | hstops
  · rw [he] at hfails
    cases hfails
  · exact hstops

end MetricQuery
