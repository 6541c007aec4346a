/-
  MetricQuery.Proofs.Formula.Descent
  ──────────────────────────────────
  **RECURSIVE DESCENT COMES TO THE SAME AS THE PARSER.**

  The functions of the descent share one cursor, and a token may be yielded, taken
  back and yielded again at several levels.  What counts of a cursor is the stream
  ahead of it.  Every function takes one phrase of the grammar off that stream,
  the longest that there is, or it fails as the parser fails on the stream; and so
  the whole descent comes to what the parser comes to.

    • `Cursor.ahead`        — the stream that a cursor is about to yield,
    • `Cursor.Passes`       — a token is yielded, and one step back takes it back,
    • `Descent.Yields`      — what a reading comes to, as a condition on its results,
    • `Parsing.run_of_reads` — the parser goes on behind the tokens that it has read,
    • `yields_phrase`       — what the functions of the descent take off the stream,
    • `read_eq_parse`       — **the descent reads every formula as the parser does.**
-/
import MetricQuery.Proofs.Formula.Pushback

namespace MetricQuery

open Text

variable {α β γ : Type}

/-! ## §1. The stream ahead of a cursor. -/

namespace Cursor

/-- The stream that a cursor is about to yield: the token that is due, if there is one, and what is
left. -/
def ahead (c : Cursor) : Scanned :=
  match c.reverted, c.last with
  | true, some t =>
      if t.kind = .finish then ⟨[], .finish t.position⟩ else ⟨t :: c.stream.tokens, c.stream.stop⟩
  | _, _ => c.stream

theorem ahead_of_due {c : Cursor} {t : Token} (hdue : c.reverted = true) (ht : c.last = some t) :
    c.ahead =
      if t.kind = .finish then ⟨[], .finish t.position⟩
      else ⟨t :: c.stream.tokens, c.stream.stop⟩ := by
  simp only [ahead, hdue, ht]

theorem ahead_of_not_due {c : Cursor} (h : c.reverted = false ∨ c.last = none) :
    c.ahead = c.stream := by
  unfold ahead
  rcases h with h | h
  · simp only [h]
  · simp only [h]
    cases c.reverted <;> rfl

/-- **The token has been yielded by `c`, and `d` is behind it.**  It stood first ahead of `c`, and
one step back takes it back. -/
structure Passes (c : Cursor) (t : Token) (d : Cursor) : Prop where
  first : t.kind = .finish ∧ c.ahead = ⟨[], .finish t.position⟩ ∨
    t.kind ≠ .finish ∧ c.ahead = ⟨t :: d.ahead.tokens, d.ahead.stop⟩
  back : d.stepBack.ahead = c.ahead

/-- **An advance passes a token,** or it stands before a character that begins none. -/
theorem advance_cases (c : Cursor) :
    (∃ t d, c.advance = (.ok t, d) ∧ Passes c t d) ∨
      ∃ p ch, c.ahead = ⟨[], .unrecognized p ch⟩ ∧ c.advance.1 = .error (unrecognized p ch) := by
  rcases c.due_or_scans with ⟨t, hdue, ht⟩ | hscans
  · -- The token that is due is yielded, and stepping back makes it due again.
    refine .inl ⟨t, _, advance_of_due hdue ht, ?_, ?_⟩
    · rw [ahead_of_due hdue ht, ahead_of_not_due (c := { c with reverted := false }) (.inl rfl)]
      by_cases hkind : t.kind = .finish
      · exact .inl ⟨hkind, if_pos hkind⟩
      · exact .inr ⟨hkind, if_neg hkind⟩
    · rw [ahead_of_due hdue ht]
      exact ahead_of_due (congrArg Option.isSome ht) ht
  · have hahead : c.ahead = Scanned.ofChars c.position c.rest := ahead_of_not_due hscans
    rw [advance_of_not_due hscans]
    unfold scanNext
    cases hscan : scan c.position c.rest with
    | token t rest =>
        have hkind : t.kind ≠ .finish := by
          obtain ⟨-, ch, tail, l, -, -, hl, -, rfl⟩ := scan_eq_token hscan
          exact kind_ne_finish_of_nextLexeme hl
        rw [Scanned.ofChars_of_token hscan] at hahead
        refine .inl ⟨t, _, rfl, .inr ⟨hkind, hahead⟩, ?_⟩
        rw [hahead, ahead_of_due rfl rfl, if_neg hkind]
        rfl
    | stop s rest =>
        rw [Scanned.ofChars_of_stop hscan] at hahead
        cases s with
        | finish position =>
            refine .inl ⟨_, _, rfl, .inl ⟨rfl, hahead⟩, ?_⟩
            rw [hahead]
            exact ahead_of_due (t := Token.finish position) rfl rfl
        | unrecognized position ch => exact .inr ⟨position, ch, hahead, rfl⟩

end Cursor

/-! ## §2. What a reading comes to. -/

namespace Descent

/-- **What a reading comes to:** it ends, with a result and a cursor that are `good` or with a
failure that is `bad`. -/
def Yields (r : Reading β) (c : Cursor) (good : β → Cursor → Prop) (bad : Fault → Prop) : Prop :=
  match r c with
  | none => False
  | some (.error fault) => bad fault
  | some (.ok (b, d)) => good b d

section Yields

variable {c d : Cursor} {t : Token} {good good' : β → Cursor → Prop} {bad bad' : Fault → Prop}

theorem Yields.mono {r : Reading β} (h : Yields r c good bad) (hgood : ∀ b d, good b d → good' b d)
    (hbad : ∀ fault, bad fault → bad' fault) : Yields r c good' bad' := by
  unfold Yields at h ⊢
  cases hr : r c with
  | none => rw [hr] at h; exact h
  | some x =>
      rw [hr] at h
      cases x with
      | error fault => exact hbad fault h
      | ok y => exact hgood y.1 y.2 h

/-- One reading after another: the second one goes on with the result and the cursor of the first
one. -/
theorem Yields.bind {r : Reading γ} {f : γ → Reading β}
    (h : Yields r c (fun b d => Yields (f b) d good bad) bad) : Yields (r >>= f) c good bad := by
  have hrun : (r >>= f) c = match r c with
      | none => none
      | some (.error fault) => some (.error fault)
      | some (.ok (b, d)) => f b d := by
    show Option.bind (r c) _ = _
    cases r c with
    | none => rfl
    | some x => cases x <;> rfl
  unfold Yields at h ⊢
  rw [hrun]
  cases hr : r c with
  | none => rw [hr] at h; exact h
  | some x =>
      rw [hr] at h
      cases x with
      | error fault => exact h
      | ok y => exact h

theorem yields_pure {b : β} (h : good b c) : Yields (pure b) c good bad :=
  h

theorem yields_refuse {cause : SyntaxCause}
    (h : bad (.syntaxError t.position t.display cause)) : Yields (refuse t cause) c good bad :=
  h

theorem yields_stepBack {good : Unit → Cursor → Prop} (h : good () c.stepBack) :
    Yields stepBack c good bad :=
  h

/-- The next token is passed, or a character that begins none is met. -/
theorem yields_next {good : Token → Cursor → Prop} (hgood : ∀ t d, c.Passes t d → good t d)
    (hbad : ∀ p ch, c.ahead = ⟨[], .unrecognized p ch⟩ → bad (unrecognized p ch)) :
    Yields next c good bad := by
  unfold Yields next
  rcases c.advance_cases with ⟨t, d, hadvance, hpasses⟩ | ⟨p, ch, hahead, hfails⟩
  · rw [hadvance]
    exact hgood t d hpasses
  · rw [← Prod.eta c.advance, hfails]
    exact hbad p ch hahead

end Yields

end Descent

/-! ## §3. The parser on the stream ahead. -/

namespace Parsing

variable [Quantity α] {p q : Parsing α}

/-- **The parser goes on behind the tokens that it has read.** -/
theorem run_of_reads {ts us : List Token} {stop : Stop} (h : p.Reads ts q) :
    p.run ⟨ts ++ us, stop⟩ = q.run ⟨us, stop⟩ := by
  unfold run
  rw [List.foldlM_append, show ts.foldlM step p = .ok q from h]
  rfl

theorem run_of_next {t : Token} {us : List Token} {stop : Stop} (h : p.next? t = some q) :
    p.run ⟨t :: us, stop⟩ = q.run ⟨us, stop⟩ :=
  run_of_reads (reads_singleton.2 h)

/-- No state goes on with the end token. -/
theorem next?_of_finish {t : Token} (ht : t.kind = .finish) : p.next? t = none := by
  obtain ⟨level, outer, expected⟩ := p
  cases expected <;> simp [next?, afterOperandToken?, afterOperatorToken?, ht]

/-- **The parser passes the token that the cursor passes.** -/
theorem run_ahead_of_next {c d : Cursor} {t : Token} (hc : c.Passes t d) (h : p.next? t = some q) :
    p.run c.ahead = q.run d.ahead := by
  rcases hc.first with ⟨ht, -⟩ | ⟨-, hahead⟩
  · rw [next?_of_finish ht] at h
    cases h
  · rw [hahead, run_of_next h]

/-- **The parser refuses the token that the cursor passes,** if it does not go on with it and may
not end before it. -/
theorem run_ahead_of_refused {c d : Cursor} {t : Token} (hc : c.Passes t d)
    (h : p.next? t = none) (hend : t.kind = .finish → p.result? = none) :
    p.run c.ahead = .error (.syntaxError t.position t.display (p.refusal t)) := by
  rcases hc.first with ⟨ht, hahead⟩ | ⟨-, hahead⟩
  · have hdisplay : t.display = "<end>" := by
      rw [Token.display, ht]
    have hrefusal : p.refusal t = p.refusal (Token.finish t.position) := by
      unfold refusal
      rw [ht]
      rfl
    rw [hahead, hdisplay, hrefusal]
    show p.conclude t.position = _
    rw [conclude, hend ht]
    rfl
  · rw [hahead]
    show (List.foldlM step p (t :: d.ahead.tokens) >>= _) = _
    rw [List.foldlM_cons, step, h]
    rfl

theorem run_of_unrecognized {c : Cursor} {position : Nat} {ch : Char}
    (h : c.ahead = ⟨[], .unrecognized position ch⟩) :
    p.run c.ahead = .error (unrecognized position ch) := by
  rw [h]
  rfl

end Parsing

/-! ## §4. Phrases that are taken off the stream. -/

/-- The operators that go on with a phrase, or with a phrase at its end. -/
def Phrase.operators : Phrase → List BinaryOp
  | .sum => [.add, .subtract, .multiply, .divide]
  | .product => [.multiply, .divide]
  | .operand => []

/-- How many functions of the descent call one another before a token is asked for. -/
def Phrase.rank : Phrase → Nat
  | .sum => 3
  | .product => 2
  | .operand => 1

/-- Between the cursors `c` and `d` stand the tokens `us`. -/
def Cursor.Spans (c : Cursor) (us : List Token) (d : Cursor) : Prop :=
  c.ahead = ⟨us ++ d.ahead.tokens, d.ahead.stop⟩

theorem Cursor.Passes.spans {c d : Cursor} {t : Token} (h : c.Passes t d) (ht : t.kind ≠ .finish) :
    c.Spans [t] d := by
  rcases h.first with ⟨hfinish, -⟩ | ⟨-, hahead⟩
  · exact absurd hfinish ht
  · exact hahead

theorem Cursor.Passes.eq_of_head? {c d : Cursor} {t u : Token} (h : c.Passes t d)
    (hu : c.ahead.tokens.head? = some u) : u = t := by
  rcases h.first with ⟨-, hahead⟩ | ⟨-, hahead⟩
  · rw [hahead] at hu
    cases hu
  · rw [hahead] at hu
    cases hu
    rfl

theorem Cursor.Spans.trans {c d e : Cursor} {us vs : List Token} (hc : c.Spans us d)
    (hd : d.Spans vs e) : c.Spans (us ++ vs) e := by
  unfold Cursor.Spans at *
  rw [hc, hd, List.append_assoc]

theorem Cursor.Spans.length {c d : Cursor} {us : List Token} (h : c.Spans us d) :
    c.ahead.tokens.length = us.length + d.ahead.tokens.length := by
  rw [show c.ahead = _ from h, List.length_append]

theorem Cursor.Spans.forall_mem {c d : Cursor} {us : List Token} {P : Token → Prop}
    (h : c.Spans us d) (hc : ∀ t ∈ c.ahead.tokens, P t) : ∀ t ∈ d.ahead.tokens, P t := by
  rw [show c.ahead = _ from h] at hc
  exact (List.forall_mem_append.1 hc).2

theorem Cursor.Spans.run [Quantity α] {c d : Cursor} {us : List Token} {p q : Parsing α}
    (h : c.Spans us d) (hread : p.Reads us q) : p.run c.ahead = q.run d.ahead := by
  rw [show c.ahead = _ from h, Parsing.run_of_reads hread]

/-- **A phrase is taken off the stream:** it stands between the two cursors, and nothing behind it
goes on with it. -/
structure Takes [Quantity α] (ph : Phrase) (c : Cursor) (e : Expr α) (d : Cursor) : Prop where
  spans : ∃ us, c.Spans us d ∧ Derives ph us e
  ends : ∀ t, d.ahead.tokens.head? = some t → ∀ op ∈ ph.operators, t.isOperator op.symbol = false

/-- The failure in which the parser ends on the stream ahead. -/
def Fails [Quantity α] (p : Parsing α) (c : Cursor) (fault : Fault) : Prop :=
  p.run c.ahead = .error fault

section Takes

variable [Quantity α] {ph : Phrase} {c d : Cursor} {e : Expr α} {level : Level α}

/-- The parser reads a phrase that is taken. -/
theorem Takes.run (h : Takes ph c e d) (hbegins : Begins ph level) (outer : List (Level α)) :
    ∃ after x, Parsing.run ⟨level, outer, .operand⟩ c.ahead =
        Parsing.run ⟨after, outer, .operator x⟩ d.ahead ∧ Delivers ph level e after x := by
  obtain ⟨us, hspans, hderives⟩ := h.spans
  obtain ⟨after, x, hread, hdelivers⟩ := delivers_of_derives hderives level outer hbegins
  exact ⟨after, x, hspans.run hread, hdelivers⟩

omit [Quantity α] in
/-- A sum begins where nothing is pending. -/
theorem begins_empty : Begins .sum (Level.empty : Level α) :=
  ⟨rfl, rfl⟩

omit [Quantity α] in
/-- Behind a phrase no sign waits. -/
theorem Delivers.signs {after : Level α} {x : Expr α} (h : Delivers ph level e after x) :
    after.signs = [] := by
  cases ph with
  | operand => exact h.1 ▸ rfl
  | product => exact h.1
  | sum => exact h.1

/-- Behind a sum comes neither an operator nor, inside of parentheses, anything but the closing
one. -/
theorem next?_operator_eq_none {outer : List (Level α)} {x : Expr α} {t : Token}
    (hends : ∀ op ∈ Phrase.sum.operators, t.isOperator op.symbol = false)
    (ht : t.kind ≠ .closeParen ∨ outer = []) :
    Parsing.next? ⟨level, outer, .operator x⟩ t = none := by
  have hnone : Parsing.operatorOf? t = none := by
    refine Option.eq_none_iff_forall_ne_some.2 fun op hop => ?_
    have hop' := operatorOf?_eq_some_iff.1 hop
    rw [hends op (by cases op <;> decide)] at hop'
    cases hop'
  simp only [Parsing.next?, Parsing.afterOperatorToken?]
  split
  · rw [hnone]
    rfl
  · rename_i hkind
    rcases ht with ht | ht
    · exact absurd hkind ht
    · cases ht
  · rfl

/-- The operators do not stand ahead of a cursor behind a sum. -/
theorem Takes.isOperator_eq_false {d' : Cursor} {t : Token}
    (h : Takes .sum c e d) (ht : d.Passes t d') :
    ∀ op ∈ Phrase.sum.operators, t.isOperator op.symbol = false := by
  intro op hop
  rcases ht.first with ⟨hkind, -⟩ | ⟨-, hahead⟩
  · simp [Token.isOperator, hkind]
  · exact h.ends t (by rw [hahead]; rfl) op hop

end Takes

namespace Descent

variable [Quantity α] {c : Cursor}

/-- A token that is an operator has its symbol as its only character. -/
theorem yields_operatorOf {t : Token} {op : BinaryOp} {good : BinaryOp → Cursor → Prop}
    {bad : Fault → Prop} (ht : t.isOperator op.symbol = true) (h : good op c) :
    Yields (operatorOf t) c good bad := by
  simp only [Token.isOperator, Bool.and_eq_true, beq_iff_eq] at ht
  have hop : t.text.toList.head?.bind BinaryOp.ofSymbol? = some op := by
    rw [ht.2, String.toList_singleton]
    exact BinaryOp.ofSymbol?_symbol op
  unfold operatorOf
  rw [hop]
  exact h

/-- **A left operand and what stands to its right.**  A phrase of one level is a chain of phrases of
the next one: the two functions for such phrases differ in nothing but the operators. -/
theorem yields_chain (inner ph : Phrase) {ops : List BinaryOp} {left right : Reading (Expr α)}
    {level : Level α} {outer : List (Level α)} (hops : ph.operators = ops ++ inner.operators)
    (hlast : ∀ {us e}, Derives (α := α) inner us e → Derives ph us e)
    (hjoin : ∀ {us vs t op} {l r : Expr α}, op ∈ ops → Derives inner us l →
      t.isOperator op.symbol = true → Derives ph vs r → Derives ph (us ++ t :: vs) (.binary l op r))
    (hbegins : Begins inner level)
    (hnext : ∀ (after : Level α) x op, op ∈ ops → after.signs = [] →
      Begins ph (Parsing.operate after x op))
    (hleft : Yields left c (Takes inner c) (Fails ⟨level, outer, .operand⟩ c))
    (hright : ∀ us d level', c.Spans us d → us ≠ [] → Begins ph level' →
      Yields right d (Takes ph d) (Fails ⟨level', outer, .operand⟩ d)) :
    Yields (chain ops left right) c (Takes ph c) (Fails ⟨level, outer, .operand⟩ c) := by
  refine .bind (hleft.mono ?_ fun fault h => h)
  intro l d hl
  obtain ⟨us, hspans, hderives⟩ := hl.spans
  obtain ⟨after, x, hrun, hdelivers⟩ := hl.run hbegins outer
  refine .bind (yields_next ?_ ?_)
  · intro t d' hpasses
    by_cases hany : ops.any (fun op => t.isOperator op.symbol) = true
    · obtain ⟨op, hop, ht⟩ := List.any_eq_true.1 hany
      have hkind : t.kind ≠ .finish := by
        rw [kind_of_isOperator ht]
        decide
      have hstep : Parsing.next? ⟨after, outer, .operator x⟩ t =
          some ⟨Parsing.operate after x op, outer, .operand⟩ := by
        simp only [Parsing.next?, Parsing.afterOperatorToken?, kind_of_isOperator ht,
          operatorOf?_eq_some_iff.2 ht, Option.map_some]
      have hspans' : c.Spans (us ++ [t]) d' := hspans.trans (hpasses.spans hkind)
      rw [if_pos hany]
      refine .bind ((hright _ d' _ hspans' (by simp) (hnext after x op hop hdelivers.signs)).mono
        ?_ ?_)
      · intro r e hr
        obtain ⟨vs, hvs, hderives'⟩ := hr.spans
        refine .bind (yields_operatorOf ht (yields_pure ⟨⟨us ++ t :: vs, ?_, ?_⟩, hr.ends⟩))
        · simpa using hspans'.trans hvs
        · exact hjoin hop hderives ht hderives'
      · intro fault hfails
        rw [Fails, hrun, Parsing.run_ahead_of_next hpasses hstep]
        exact hfails
    · -- The token is left to what comes behind the phrase.
      rw [if_neg hany]
      refine .bind (yields_stepBack (yields_pure ⟨⟨us, ?_, hlast hderives⟩, ?_⟩))
      · rw [Cursor.Spans, hpasses.back]
        exact hspans
      · intro u hu op hop
        rw [hpasses.back] at hu
        rw [hops] at hop
        rcases List.mem_append.1 hop with hop | hop
        · rw [hpasses.eq_of_head? hu, Bool.eq_false_iff]
          exact fun ht => hany (List.any_eq_true.2 ⟨op, hop, ht⟩)
        · exact hl.ends u hu op hop
  · intro position ch hahead
    rw [Fails, hrun]
    exact Parsing.run_of_unrecognized hahead

/-- A token of a kind that is expected, or a refusal. -/
theorem yields_expect {q : Parsing α} {kind : TokenKind} {cause : SyntaxCause}
    {good : Unit → Cursor → Prop} {bad : Fault → Prop}
    (hbad : ∀ fault, Fails q c fault → bad fault)
    (hgood : ∀ t d, c.Passes t d → t.kind = kind → good () d)
    (hrefused : ∀ t d, c.Passes t d → t.kind ≠ kind → q.next? t = none ∧
      (t.kind = .finish → q.result? = none) ∧ q.refusal t = cause) :
    Yields (expect kind cause) c good bad := by
  refine .bind (yields_next ?_ fun position ch h => hbad _ (Parsing.run_of_unrecognized h))
  intro t d hpasses
  by_cases hkind : t.kind = kind
  · rw [if_pos hkind]
    exact yields_pure (hgood t d hpasses hkind)
  · rw [if_neg hkind]
    obtain ⟨hnext, hend, rfl⟩ := hrefused t d hpasses hkind
    exact yields_refuse (hbad _ (Parsing.run_ahead_of_refused hpasses hnext hend))

/-! ## §5. Options. -/

section Options

variable {level : Level α} {outer : List (Level α)}

/-- **The name of an option and its value.** -/
theorem yields_assignment (options : Options) :
    Yields assignment c (fun o d => ∃ us, c.Spans us d ∧ OptionDerives us o)
      (Fails (⟨level, outer, .optionName options⟩ : Parsing α) c) := by
  refine .bind (yields_next ?_ fun _ _ h => Parsing.run_of_unrecognized h)
  intro key d hkey
  by_cases hk : key.kind = .identifier
  · have hspans : c.Spans [key] d := hkey.spans (by rw [hk]; decide)
    have hread := Parsing.reads_singleton.2 (next?_optionName.2 ⟨hk, rfl⟩ :
      Parsing.next? (⟨level, outer, .optionName options⟩ : Parsing α) key = some _)
    rw [if_pos hk]
    refine .bind (yields_expect (q := ⟨level, outer, .optionEquals options key.text⟩) ?_ ?_ ?_)
    · intro fault h
      exact (hspans.run hread).trans h
    · intro equals e hequals he
      have hspans' := hspans.trans (hequals.spans (by rw [he]; decide))
      have hread' := Parsing.reads_append.2 ⟨_, hread,
        Parsing.reads_singleton.2 (next?_optionEquals.2 ⟨he, rfl⟩)⟩
      refine .bind (yields_next ?_ ?_)
      · intro value f hvalue
        by_cases hv : value.kind = .identifier ∨ value.kind = .number
        · have hkind : value.kind ≠ .finish := by
            rcases hv with hv | hv <;> rw [hv] <;> decide
          rw [if_pos hv]
          exact yields_pure ⟨_, hspans'.trans (hvalue.spans hkind), .assign hk he hv⟩
        · rw [if_neg hv]
          refine yields_refuse ((hspans'.run hread').trans
            (Parsing.run_ahead_of_refused hvalue ?_ fun _ => rfl))
          exact Option.eq_none_iff_forall_ne_some.2 fun q hq => hv (next?_optionValue.1 hq).1
      · intro position ch h
        exact (hspans'.run hread').trans (Parsing.run_of_unrecognized h)
    · intro equals e _ he
      refine ⟨?_, fun _ => rfl, rfl⟩
      exact Option.eq_none_iff_forall_ne_some.2 fun q hq => he (next?_optionEquals.1 hq).1
  · rw [if_neg hk]
    refine yields_refuse (Parsing.run_ahead_of_refused hkey ?_ fun _ => rfl)
    exact Option.eq_none_iff_forall_ne_some.2 fun q hq => hk (next?_optionName.1 hq).1

/-- **Options with commas between them,** up to a token that is no comma. -/
theorem yields_assignments (depth : Nat) : ∀ (options : Options) (c : Cursor),
    c.ahead.tokens.length < depth →
    Yields (assignments depth options) c
      (fun result d => ∃ us os, c.Spans us d ∧ OptionsDerive us os ∧ result = options.extend os ∧
        ∀ t, d.ahead.tokens.head? = some t → t.kind ≠ .comma)
      (Fails (⟨level, outer, .optionName options⟩ : Parsing α) c) := by
  induction depth with
  | zero =>
      intro options c hdepth
      omega
  | succ depth ih =>
      intro options c hdepth
      refine .bind ((yields_assignment options).mono ?_ fun fault h => h)
      rintro o d ⟨us, hspans, hderives⟩
      have hread : Parsing.Reads (⟨level, outer, .optionName options⟩ : Parsing α) us
          ⟨level, outer, .optionEnd (options.insert o.1 o.2)⟩ := reads_option hderives
      have hrun := hspans.run hread
      refine .bind (yields_next ?_ fun _ _ h => hrun.trans (Parsing.run_of_unrecognized h))
      intro t e hpasses
      by_cases ht : t.kind = .comma
      · have hspans' := hpasses.spans (by rw [ht]; decide)
        have hlength := (hspans.trans hspans').length
        rw [if_pos ht]
        refine (ih _ e (by simp at hlength; omega)).mono ?_ ?_
        · rintro result f ⟨vs, os, hvs, hos, rfl, hends⟩
          refine ⟨us ++ t :: vs, o :: os, ?_, .more hderives ht hos, rfl, hends⟩
          simpa using (hspans.trans hspans').trans hvs
        · intro fault h
          exact (hrun.trans (Parsing.run_ahead_of_next hpasses
            (next?_optionEnd.2 (.inl ⟨ht, rfl⟩)))).trans h
      · rw [if_neg ht]
        refine .bind (yields_stepBack (yields_pure ⟨us, [o], ?_, .one hderives, rfl, ?_⟩))
        · rw [Cursor.Spans, hpasses.back]
          exact hspans
        · intro u hu
          rw [hpasses.back] at hu
          exact hpasses.eq_of_head? hu ▸ ht

end Options

/-! ## §6. Operands. -/

/-- Nothing goes on with an operand. -/
theorem takes_operand {c d : Cursor} {us : List Token} {e : Expr α} (hspans : c.Spans us d)
    (h : Derives .operand us e) : Takes .operand c e d :=
  ⟨⟨us, hspans, h⟩, nofun⟩

section Operands

variable {level : Level α} {outer : List (Level α)} {d : Cursor} {t : Token}

/-- **A sum in parentheses.**  Where the parenthesis is not closed, the group around it waits, and
the parser may not end. -/
theorem yields_group {sum : Reading (Expr α)} (hpasses : c.Passes t d) (ht : t.kind = .openParen)
    (hsum : Yields sum d (Takes .sum d) (Fails ⟨Level.empty, level :: outer, .operand⟩ d)) :
    Yields (group sum) d (Takes .operand c) (Fails ⟨level, outer, .operand⟩ c) := by
  have hspans := hpasses.spans (by rw [ht]; decide)
  have hopen : Parsing.next? (⟨level, outer, .operand⟩ : Parsing α) t =
      some ⟨Level.empty, level :: outer, .operand⟩ := by
    simp [Parsing.next?, Parsing.afterOperandToken?, ht]
  have hrun := Parsing.run_ahead_of_next hpasses hopen
  refine .bind (hsum.mono ?_ fun fault h => hrun.trans h)
  intro e d' he
  obtain ⟨us, hus, hderives⟩ := he.spans
  obtain ⟨after, x, hrun', -⟩ := he.run begins_empty (level :: outer)
  refine .bind (yields_expect (fun fault h => hrun.trans (hrun'.trans h)) ?_ ?_)
  · intro u d'' hu hclose
    have hall := (hspans.trans hus).trans (hu.spans (by rw [hclose]; decide))
    exact yields_pure (takes_operand hall (.group ht hderives hclose))
  · intro u d'' hu hclose
    exact ⟨next?_operator_eq_none (he.isOperator_eq_false hu) (.inl hclose), fun _ => rfl, rfl⟩

/-- **Options in brackets.** -/
theorem yields_bracket {depth : Nat} (hpasses : c.Passes t d) (ht : t.kind = .openBracket)
    (hdepth : d.ahead.tokens.length < depth) :
    Yields (bracket (α := α) depth) d (Takes .operand c)
      (Fails (⟨level, outer, .operand⟩ : Parsing α) c) := by
  have hspans := hpasses.spans (by rw [ht]; decide)
  have hopen : Parsing.next? (⟨level, outer, .operand⟩ : Parsing α) t =
      some ⟨level, outer, .optionName ∅⟩ := by
    simp [Parsing.next?, Parsing.afterOperandToken?, ht]
  have hrun := Parsing.run_ahead_of_next hpasses hopen
  refine .bind ((yields_assignments depth ∅ d hdepth).mono ?_ fun fault h => hrun.trans h)
  rintro options d' ⟨us, os, hus, hos, rfl, hends⟩
  have hread : Parsing.Reads (⟨level, outer, .optionName ∅⟩ : Parsing α) us
      ⟨level, outer, .optionEnd (Options.extend ∅ os)⟩ := reads_options hos ∅
  refine .bind (yields_expect (fun fault h => hrun.trans ((hus.run hread).trans h)) ?_ ?_)
  · intro u d'' hu hclose
    have hall := (hspans.trans hus).trans (hu.spans (by rw [hclose]; decide))
    refine yields_pure (takes_operand hall (.options ht hos hclose ?_))
    intro key
    rw [Options.getElem?_extend]
    simp
  · intro u d'' hu hclose
    refine ⟨Option.eq_none_iff_forall_ne_some.2 fun q hq => ?_, fun _ => rfl, rfl⟩
    rcases next?_optionEnd.1 hq with ⟨hcomma, -⟩ | ⟨hclose', -⟩
    · rcases hu.first with ⟨hfinish, -⟩ | ⟨-, hahead⟩
      · cases hcomma.symm.trans hfinish
      · exact hends u (by rw [hahead]; rfl) hcomma
    · exact hclose hclose'

/-- **An operand:** a sum in parentheses, options in brackets, a number, or a sign before an
operand. -/
theorem yields_operand {depth : Nat} (hnumerals : ∀ t ∈ c.ahead.tokens, t.HasNumeral)
    (hdepth : c.ahead.tokens.length ≤ depth)
    (hinner : ∀ (ph : Phrase) (level : Level α) outer us d, c.Spans us d → us ≠ [] →
      Begins ph level → Yields (phrase (α := α) depth ph) d (Takes ph d)
        (Fails ⟨level, outer, .operand⟩ d)) :
    Yields (phrase (α := α) (depth + 1) .operand) c (Takes .operand c)
      (Fails ⟨level, outer, .operand⟩ c) := by
  unfold phrase
  refine .bind (yields_next ?_ fun _ _ h => Parsing.run_of_unrecognized h)
  intro t d hpasses
  split
  · rename_i hkind
    have hspans := hpasses.spans (by rw [hkind]; decide)
    exact yields_group hpasses hkind
      (hinner .sum Level.empty (level :: outer) _ d hspans (by simp) begins_empty)
  · rename_i hkind
    have hlength := (hpasses.spans (by rw [hkind]; decide)).length
    rw [List.length_singleton] at hlength
    exact yields_bracket hpasses hkind (by omega)
  · rename_i hkind
    have hspans := hpasses.spans (by rw [hkind]; decide)
    have hmem : t ∈ c.ahead.tokens := by
      rw [show c.ahead = _ from hspans]
      simp
    obtain ⟨v, hv⟩ := hnumerals t hmem hkind
    rw [numberOf_of_numeral hv]
    exact yields_pure (takes_operand hspans (.number hkind hv))
  · rename_i hkind
    refine yields_refuse ((Parsing.run_ahead_of_refused hpasses (Parsing.next?_of_finish hkind)
      fun _ => rfl).trans ?_)
    simp [Parsing.refusal, hkind]
  · rename_i hparen hbracket hnumber hfinish
    split
    · rename_i sign hsign
      have ht := signOf?_eq_some_iff.1 hsign
      have hspans := hpasses.spans hfinish
      have hstep : Parsing.next? (⟨level, outer, .operand⟩ : Parsing α) t =
          some ⟨{ level with signs := sign :: level.signs }, outer, .operand⟩ := by
        simp [Parsing.next?, Parsing.afterOperandToken?, kind_of_isOperator ht, hsign]
      refine .bind ((hinner .operand { level with signs := sign :: level.signs } outer _ d hspans
        (by simp) trivial).mono ?_ fun fault h => (Parsing.run_ahead_of_next hpasses hstep).trans h)
      intro e d' he
      obtain ⟨us, hus, hderives⟩ := he.spans
      exact yields_pure (takes_operand (hspans.trans hus) (.sign ht hderives))
    · rename_i hsign
      refine yields_refuse ((Parsing.run_ahead_of_refused hpasses ?_ fun _ => rfl).trans ?_)
      · simp only [Parsing.next?, Parsing.afterOperandToken?]
        split
        · exact absurd ‹_› hparen
        · exact absurd ‹_› hbracket
        · exact absurd ‹_› hnumber
        · rw [hsign]
          rfl
        · rfl
      · rw [Parsing.refusal, if_neg hfinish]

end Operands

/-! ## §7. The whole descent. -/

/-- **What the functions of the descent take off the stream,** if they may descend three levels for
each token ahead and so many as call one another before a token is asked for. -/
theorem yields_phrase (depth : Nat) : ∀ (ph : Phrase) (level : Level α) (outer : List (Level α))
    (c : Cursor), Begins ph level → (∀ t ∈ c.ahead.tokens, t.HasNumeral) →
    3 * c.ahead.tokens.length + ph.rank ≤ depth →
    Yields (phrase (α := α) depth ph) c (Takes ph c) (Fails ⟨level, outer, .operand⟩ c) := by
  induction depth with
  | zero =>
      intro ph level outer c _ _ hdepth
      cases ph <;> simp [Phrase.rank] at hdepth
  | succ depth ih =>
      intro ph level outer c hbegins hnumerals hdepth
      -- Behind a token there are fewer tokens ahead, so every phrase may be read there.
      have hlater : ∀ (ph : Phrase) (level : Level α) outer us d, c.Spans us d → us ≠ [] →
          Begins ph level → Yields (phrase (α := α) depth ph) d (Takes ph d)
            (Fails ⟨level, outer, .operand⟩ d) := by
        intro ph' level outer us d hspans hne hbegins
        have hlength := hspans.length
        have hpos := List.length_pos_iff.2 hne
        have hrank : ph'.rank ≤ 3 := by cases ph' <;> decide
        have hrank' : 1 ≤ ph.rank := by cases ph <;> decide
        exact ih ph' level outer d hbegins (hspans.forall_mem hnumerals) (by omega)
      cases ph with
      | sum =>
          refine yields_chain .product .sum rfl .lastProduct ?_ hbegins.1 ?_
            (ih .product level outer c hbegins.1 hnumerals (by simp [Phrase.rank] at *; omega))
            fun us d level' hspans hne hb => hlater .sum level' outer us d hspans hne hb
          · intro us vs t op l r hop hl ht hr
            exact .addition hl (by simpa using hop) ht hr
          · intro after x op hop hsigns
            have hop : op = .add ∨ op = .subtract := by simpa using hop
            rcases hop with rfl | rfl <;> exact ⟨rfl, rfl⟩
      | product =>
          refine yields_chain .operand .product rfl .lastOperand ?_ trivial ?_
            (ih .operand level outer c trivial hnumerals (by simp [Phrase.rank] at *; omega))
            fun us d level' hspans hne hb => hlater .product level' outer us d hspans hne hb
          · intro us vs t op l r hop hl ht hr
            exact .multiplication hl (by simpa using hop) ht hr
          · intro after x op hop hsigns
            have hop : op = .multiply ∨ op = .divide := by simpa using hop
            rcases hop with rfl | rfl <;> exact hsigns
      | operand =>
          exact yields_operand hnumerals (by simp [Phrase.rank] at hdepth; omega) hlater

/-- A whole formula: a sum, and the end token behind it. -/
theorem yields_whole {depth : Nat} (hnumerals : ∀ t ∈ c.ahead.tokens, t.HasNumeral)
    (hdepth : 3 * c.ahead.tokens.length + 3 ≤ depth) :
    Yields (whole depth) c (fun e _ => Parsing.start.run c.ahead = .ok (e : Expr α))
      (Fails (Parsing.start : Parsing α) c) := by
  refine .bind ((yields_phrase depth .sum Level.empty [] c begins_empty hnumerals hdepth).mono ?_
    fun fault h => h)
  intro e d he
  obtain ⟨after, x, hrun, -, hclose⟩ := he.run begins_empty []
  refine .bind (yields_expect (fun fault h => hrun.trans h) ?_ ?_)
  · intro t d' ht hfinish
    refine yields_pure (hrun.trans ?_)
    rcases ht.first with ⟨-, hahead⟩ | ⟨hne, -⟩
    · rw [hahead]
      show Except.ok (after.close x) = .ok e
      rw [hclose]
      rfl
    · exact absurd hfinish hne
  · intro t d' ht hfinish
    exact ⟨next?_operator_eq_none (he.isOperator_eq_false ht) (.inr rfl),
      fun h => absurd h hfinish, rfl⟩

/-- There are no more tokens than characters. -/
theorem length_tokens_le (position : Nat) (cs : List Char) :
    (Scanned.ofChars position cs).tokens.length ≤ cs.length := by
  induction position, cs using Scanned.ofChars.induct with
  | case1 position cs t rest hscan ih =>
      have hshorter := scan_shorter hscan
      rw [Scanned.ofChars_of_token hscan, List.length_cons]
      omega
  | case2 position cs s rest hscan =>
      rw [Scanned.ofChars_of_stop hscan]
      exact Nat.zero_le _

/-- **The descent reads every formula as the parser does.**  It asks one cursor for tokens, steps
back where a token belongs to what comes after, never descends deeper than it may, and ends with the
same tree or with the same failure. -/
theorem read_eq_parse (formula : String) :
    read formula = some (parse formula : Except Fault (Expr α)) := by
  have hahead : (Cursor.ofText formula).ahead = Scanned.ofText formula :=
    Cursor.ahead_of_not_due (.inl rfl)
  have hlength : 3 * (Cursor.ofText formula).ahead.tokens.length + 3 ≤
      3 * formula.toList.length + 3 := by
    rw [hahead]
    exact Nat.add_le_add_right (Nat.mul_le_mul_left 3 (length_tokens_le 0 formula.toList)) 3
  have hyields := yields_whole (α := α)
    (by rw [hahead]; exact fun t ht => hasNumeral_of_mem_tokens ht) hlength
  rw [hahead] at hyields
  unfold Yields Fails at hyields
  unfold read StateT.run'
  cases hread : whole (α := α) (3 * formula.toList.length + 3) (Cursor.ofText formula) with
  | none => rw [hread] at hyields; cases hyields
  | some result =>
      rw [hread] at hyields
      cases result with
      | error fault => exact congrArg some hyields.symm
      | ok y => exact congrArg some hyields.symm

end Descent

end MetricQuery
