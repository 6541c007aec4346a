/-
  MetricQuery.Proofs.Formula.Acceptance
  ─────────────────────────────────────
  **THE PARSER ACCEPTS NOTHING BUT THE GRAMMAR.**

  A state of the parser stands for the tokens read so far: phrases of the
  grammar that are complete, each followed by the operator or the parenthesis
  behind which it waits.  `Holds` says so, one token keeps it, and a state in
  which the formula may end holds a whole sum.

    • `Waits`, `Level.Holds`, `Parsing.Holds` — the tokens that a state stands for,
    • `holds_next`        — one token keeps the invariant,
    • `derives_of_holds`  — at the end the invariant is a derivation,
    • `parse_eq_ok_iff_derives` — a formula parses to a tree exactly if its tokens
      derive that tree.
-/
import MetricQuery.Proofs.Formula.Grammar

namespace MetricQuery

variable {α : Type} [Quantity α]

/-! ## §1. What a state stands for. -/

/-- Left operands that wait for the rest of a phrase, with the tokens they were read from: each is
an `inner` phrase, and its operator stands behind it. -/
inductive Waits (inner : Phrase) (ops : List BinaryOp) :
    List (Expr α × BinaryOp) → List Token → Prop
  | nil : Waits inner ops [] []
  | cons {pending : List (Expr α × BinaryOp)} {ts us : List Token} {t : Token} {l : Expr α}
      {op : BinaryOp} (h : Waits inner ops pending ts) (hl : Derives inner us l) (hop : op ∈ ops)
      (ht : t.isOperator op.symbol = true) :
      Waits inner ops ((l, op) :: pending) (ts ++ (us ++ [t]))

/-- Signs that wait for an operand. -/
inductive SignsWait : List Sign → List Token → Prop
  | nil : SignsWait [] []
  | cons {signs : List Sign} {ts : List Token} {t : Token} {sign : Sign} (h : SignsWait signs ts)
      (ht : t.isOperator sign.symbol = true) : SignsWait (sign :: signs) (ts ++ [t])

/-- The tokens of one group: left operands of sums, then of products, then signs. -/
def Level.Holds (level : Level α) (ts : List Token) : Prop :=
  ∃ sums products signs, ts = sums ++ products ++ signs ∧
    Waits .product [.add, .subtract] level.sums sums ∧
    Waits .operand [.multiply, .divide] level.products products ∧ SignsWait level.signs signs

/-- The tokens of the groups around the current one, each up to the parenthesis that it waits
behind. -/
inductive OuterHolds : List (Level α) → List Token → Prop
  | nil : OuterHolds [] []
  | cons {level : Level α} {outer : List (Level α)} {ts us : List Token} {t : Token}
      (ho : OuterHolds outer ts) (hl : level.Holds us) (ht : t.kind = .openParen) :
      OuterHolds (level :: outer) (ts ++ (us ++ [t]))

/-- An opening bracket and complete options. -/
def BracketHolds (options : Options) (ts : List Token) : Prop :=
  ∃ t us os, ts = t :: us ∧ t.kind = .openBracket ∧ OptionsDerive us os ∧
    ∀ key, options[key]? = lastValue os key

/-- An opening bracket and what stands before the name of an option. -/
def NameHolds (options : Options) (ts : List Token) : Prop :=
  (∃ t, ts = [t] ∧ t.kind = .openBracket ∧ options = ∅) ∨
    ∃ us comma, ts = us ++ [comma] ∧ comma.kind = .comma ∧ BracketHolds options us

/-- The tokens since the last operator, sign or parenthesis. -/
def Expectation.Holds : Expectation α → List Token → Prop
  | .operand, ts => ts = []
  | .operator e, ts => Derives .operand ts e
  | .optionName options, ts => NameHolds options ts
  | .optionEquals options key, ts =>
      ∃ us name, ts = us ++ [name] ∧ name.kind = .identifier ∧ name.text = key ∧
        NameHolds options us
  | .optionValue options key, ts =>
      ∃ us name equals, ts = us ++ [name, equals] ∧ name.kind = .identifier ∧ name.text = key ∧
        equals.kind = .equals ∧ NameHolds options us
  | .optionEnd options, ts => BracketHolds options ts

/-- **The tokens that a state stands for.**  Behind a complete operand no sign waits. -/
def Parsing.Holds (p : Parsing α) (ts : List Token) : Prop :=
  ∃ before group last, ts = before ++ (group ++ last) ∧ OuterHolds p.outer before ∧
    p.level.Holds group ∧ p.expected.Holds last ∧
    ∀ e, p.expected = .operator e → p.level.signs = []

/-! ## §2. Phrases that wait are completed by a last one. -/

/-- Every waiting operand takes the phrase to its right, by the rule that joins the two. -/
theorem Waits.join {inner outer : Phrase} {ops : List BinaryOp}
    {pending : List (Expr α × BinaryOp)} {ts us : List Token} {e : Expr α}
    (hrule : ∀ {xs ys : List Token} {t : Token} {op : BinaryOp} {l r : Expr α}, Derives inner xs l →
      op ∈ ops → t.isOperator op.symbol = true → Derives outer ys r →
      Derives outer (xs ++ t :: ys) (.binary l op r))
    (h : Waits inner ops pending ts) (he : Derives outer us e) :
    Derives outer (ts ++ us) (Level.join pending e) := by
  -- The operand that waits last is joined first, so the phrase grows to the left.
  induction h generalizing us e with
  | nil => exact he
  | @cons pending ts xs t l op h hl hop ht ih =>
      rw [show ts ++ (xs ++ [t]) ++ us = ts ++ (xs ++ t :: us) by simp]
      exact ih (hrule hl hop ht he)

theorem SignsWait.signed {signs : List Sign} {ts us : List Token} {e : Expr α}
    (h : SignsWait signs ts) (he : Derives .operand us e) :
    Derives .operand (ts ++ us) (signs.foldl (fun e sign => .unary sign e) e) := by
  induction h generalizing us e with
  | nil => exact he
  | @cons signs ts t sign h ht ih =>
      rw [show ts ++ [t] ++ us = ts ++ t :: us by simp]
      exact ih (Derives.sign ht he)

theorem SignsWait.eq_nil {ts : List Token} (h : SignsWait [] ts) : ts = [] := by
  cases h
  rfl

/-- The operands of products that wait, and a last one, are a product. -/
theorem Waits.product {pending : List (Expr α × BinaryOp)} {ts us : List Token} {e : Expr α}
    (h : Waits .operand [.multiply, .divide] pending ts) (he : Derives .operand us e) :
    Derives .product (ts ++ us) (Level.join pending e) :=
  h.join (fun hl hop ht hr => .multiplication hl (by simpa using hop) ht hr) (.lastOperand he)

/-- The products that wait, and a last one, are a sum. -/
theorem Waits.sum {pending : List (Expr α × BinaryOp)} {ts us : List Token} {e : Expr α}
    (h : Waits .product [.add, .subtract] pending ts) (he : Derives .product us e) :
    Derives .sum (ts ++ us) (Level.join pending e) :=
  h.join (fun hl hop ht hr => .addition hl (by simpa using hop) ht hr) (.lastProduct he)

/-- **A group that ends behind an operand is a sum.** -/
theorem Level.Holds.close {level : Level α} {ts us : List Token} {e : Expr α} (h : level.Holds ts)
    (hs : level.signs = []) (he : Derives .operand us e) :
    Derives .sum (ts ++ us) (level.close e) := by
  obtain ⟨sums, products, signs, rfl, hsum, hproduct, hsign⟩ := h
  rw [hs] at hsign
  rw [hsign.eq_nil, List.append_nil, List.append_assoc]
  exact hsum.sum (hproduct.product he)

/-- An operand in a group takes the signs before it. -/
theorem Level.Holds.complete {level : Level α} {ts us : List Token} {e : Expr α}
    (h : level.Holds ts) (he : Derives .operand us e) :
    ∃ group last, ts ++ us = group ++ last ∧ Level.Holds { level with signs := [] } group ∧
      Derives .operand last (level.signed e) := by
  obtain ⟨sums, products, signs, rfl, hsum, hproduct, hsign⟩ := h
  -- The signs belong to the operand now, and none of them waits any more.
  refine ⟨sums ++ products, signs ++ us, by simp, ⟨sums, products, [], ?_⟩, hsign.signed he⟩
  exact ⟨by simp, hsum, hproduct, .nil⟩

/-! ## §3. One token keeps the invariant. -/

theorem Level.holds_empty : (Level.empty : Level α).Holds [] :=
  ⟨[], [], [], rfl, .nil, .nil, .nil⟩

theorem holds_start : (Parsing.start : Parsing α).Holds [] := by
  refine ⟨[], [], [], rfl, .nil, Level.holds_empty, rfl, ?_⟩
  intro e he
  cases he

/-- A complete operand behind a group. -/
theorem holds_complete {level : Level α} {outer : List (Level α)} {before group us : List Token}
    {e : Expr α} (ho : OuterHolds outer before) (hl : level.Holds group)
    (he : Derives .operand us e) :
    (Parsing.complete level outer e).Holds (before ++ (group ++ us)) := by
  obtain ⟨group', last, heq, hg, hlast⟩ := hl.complete he
  rw [heq]
  exact ⟨before, group', last, rfl, ho, hg, hlast, fun _ _ => rfl⟩

/-- An operator behind a complete operand: the operand, or the product that it ends, waits. -/
theorem Level.Holds.operate {level : Level α} {group us : List Token} {e : Expr α} {t : Token}
    {op : BinaryOp} (hl : level.Holds group) (hs : level.signs = []) (he : Derives .operand us e)
    (ht : t.isOperator op.symbol = true) :
    (Parsing.operate level e op).Holds (group ++ us ++ [t]) := by
  obtain ⟨sums, products, signs, rfl, hsum, hproduct, hsign⟩ := hl
  have hnil : signs = [] := by
    rw [hs] at hsign
    exact hsign.eq_nil
  subst hnil
  -- Behind a sum's operator the whole product waits, behind a product's the operand alone.
  have sumCase : op = .add ∨ op = .subtract →
      Level.Holds ⟨(level.product e, op) :: level.sums, [], []⟩
        (sums ++ products ++ [] ++ us ++ [t]) := by
    intro hop
    refine ⟨sums ++ (products ++ us ++ [t]), [], [], by simp, ?_, .nil, .nil⟩
    exact hsum.cons (hproduct.product he) (by simpa using hop) ht
  have productCase : op = .multiply ∨ op = .divide →
      Level.Holds { level with products := (e, op) :: level.products }
        (sums ++ products ++ [] ++ us ++ [t]) := by
    intro hop
    refine ⟨sums, products ++ (us ++ [t]), [], by simp, hsum, ?_, ?_⟩
    · exact hproduct.cons he (by simpa using hop) ht
    · rw [show ({ level with products := (e, op) :: level.products } : Level α).signs = [] from hs]
      exact .nil
  cases op with
  | add => exact sumCase (.inl rfl)
  | subtract => exact sumCase (.inr rfl)
  | multiply => exact productCase (.inl rfl)
  | divide => exact productCase (.inr rfl)

/-- A token where an operand is expected. -/
theorem holds_afterOperandToken {p q : Parsing α} {before group : List Token} {t : Token}
    (ho : OuterHolds p.outer before) (hl : p.level.Holds group) (he : p.expected = .operand)
    (ht : t.HasNumeral) (h : p.afterOperandToken? t = some q) :
    q.Holds (before ++ (group ++ [t])) := by
  unfold Parsing.afterOperandToken? at h
  split at h
  · rename_i hk
    cases h
    refine ⟨before ++ (group ++ [t]), [], [], by simp, .cons ho hl hk, Level.holds_empty, rfl, ?_⟩
    intro e he
    cases he
  · rename_i hk
    cases h
    refine ⟨before, group, [t], rfl, ho, hl, .inl ⟨t, rfl, hk, rfl⟩, ?_⟩
    intro e he
    cases he
  · rename_i hk
    cases h
    obtain ⟨d, hd⟩ := ht hk
    rw [numberOf_of_numeral hd]
    exact holds_complete ho hl (.number hk hd)
  · obtain ⟨sign, hsign, rfl⟩ := Option.map_eq_some_iff.1 h
    obtain ⟨sums, products, signs, rfl, hsum, hproduct, hwait⟩ := hl
    refine ⟨before, sums ++ products ++ (signs ++ [t]), [], by simp, ho, ?_, ?_, ?_⟩
    · exact ⟨sums, products, signs ++ [t], rfl, hsum, hproduct,
        hwait.cons (signOf?_eq_some_iff.1 hsign)⟩
    · show p.expected.Holds []
      rw [he]
      rfl
    · intro e hop
      rw [he] at hop
      cases hop
  · cases h

/-- A token behind a complete operand. -/
theorem holds_afterOperatorToken {p q : Parsing α} {before group us : List Token} {e : Expr α}
    {t : Token} (ho : OuterHolds p.outer before) (hl : p.level.Holds group)
    (hs : p.level.signs = []) (he : Derives .operand us e)
    (h : p.afterOperatorToken? e t = some q) : q.Holds (before ++ (group ++ us ++ [t])) := by
  unfold Parsing.afterOperatorToken? at h
  split at h
  · obtain ⟨op, hop, rfl⟩ := Option.map_eq_some_iff.1 h
    refine ⟨before, group ++ us ++ [t], [], by simp, ho,
      hl.operate hs he (operatorOf?_eq_some_iff.1 hop), rfl, ?_⟩
    intro e he
    cases he
  · rename_i level outer hk hout
    cases h
    rw [hout] at ho
    -- The parenthesis that opened the group stands at the end of what is around it.
    cases ho with
    | @cons _ _ before' group' opening ho' hl' ht =>
        have hgroup := Derives.group ht (hl.close hs he) hk
        have hheld := holds_complete ho' hl' hgroup
        rw [show before' ++ (group' ++ [opening]) ++ (group ++ us ++ [t]) =
          before' ++ (group' ++ (opening :: (group ++ us) ++ [t])) by simp]
        exact hheld
  · cases h

theorem lastValue_concat (os : List (String × String)) (o : String × String) (key : String) :
    lastValue (os ++ [o]) key = if o.1 = key then some o.2 else lastValue os key := by
  by_cases h : o.1 = key <;> simp [lastValue, h]

theorem OptionsDerive.concat {ts us : List Token} {comma : Token} {os : List (String × String)}
    {o : String × String} (h : OptionsDerive ts os) (hc : comma.kind = .comma)
    (ho : OptionDerives us o) : OptionsDerive (ts ++ comma :: us) (os ++ [o]) := by
  induction h with
  | one h => exact .more h hc (.one ho)
  | @more ts vs c o' os h hc' _ ih =>
      rw [show ts ++ c :: vs ++ comma :: us = ts ++ c :: (vs ++ comma :: us) by simp]
      exact .more h hc' ih

/-- The value of an option completes it. -/
theorem NameHolds.value {options : Options} {us : List Token} {name equals value : Token}
    (h : NameHolds options us) (hn : name.kind = .identifier) (he : equals.kind = .equals)
    (hv : value.kind = .identifier ∨ value.kind = .number) :
    BracketHolds (options.insert name.text value.text) (us ++ [name, equals, value]) := by
  have ho : OptionDerives [name, equals, value] (name.text, value.text) := .assign hn he hv
  rcases h with ⟨t, rfl, ht, rfl⟩ | ⟨vs, comma, rfl, hc, t, ws, os, rfl, ht, hos, hval⟩
  · refine ⟨t, _, _, rfl, ht, .one ho, ?_⟩
    intro key
    by_cases hk : name.text = key <;> simp [lastValue, hk]
  · refine ⟨t, ws ++ comma :: [name, equals, value], os ++ [(name.text, value.text)], by simp, ht,
      hos.concat hc ho, ?_⟩
    intro key
    rw [lastValue_concat, Std.ExtTreeMap.getElem?_insert, hval]
    by_cases hk : name.text = key <;> simp [hk]

/-- **One token keeps the invariant.** -/
theorem holds_next {p q : Parsing α} {ts : List Token} {t : Token} (hp : p.Holds ts)
    (ht : t.HasNumeral) (h : p.next? t = some q) : q.Holds (ts ++ [t]) := by
  obtain ⟨before, group, last, rfl, ho, hl, hlast, hs⟩ := hp
  obtain ⟨level, outer, expected⟩ := p
  -- While options are read, the group and what is around it stay as they are.
  have keep : ∀ (expected' : Expectation α) (last' : List Token), last ++ [t] = last' →
      expected'.Holds last' → (∀ e, expected' ≠ .operator e) →
      Parsing.Holds ⟨level, outer, expected'⟩ (before ++ (group ++ last) ++ [t]) := by
    rintro expected' last' rfl hexp hne
    refine ⟨before, group, last ++ [t], by simp, ho, hl, hexp, ?_⟩
    intro e he
    exact absurd he (hne e)
  cases expected with
  | operand =>
      cases hlast
      simpa using holds_afterOperandToken ho hl rfl ht h
  | operator e => simpa using holds_afterOperatorToken ho hl (hs e rfl) hlast h
  | optionName options =>
      obtain ⟨hk, rfl⟩ := next?_optionName.1 h
      exact keep _ _ rfl ⟨last, t, rfl, hk, rfl, hlast⟩ (by simp)
  | optionEquals options key =>
      obtain ⟨hk, rfl⟩ := next?_optionEquals.1 h
      obtain ⟨us, name, rfl, hn, rfl, hname⟩ := hlast
      exact keep _ (us ++ [name, t]) (by simp) ⟨us, name, t, rfl, hn, rfl, hk, hname⟩ (by simp)
  | optionValue options key =>
      obtain ⟨hk, rfl⟩ := next?_optionValue.1 h
      obtain ⟨us, name, equals, rfl, hn, rfl, he, hname⟩ := hlast
      exact keep _ (us ++ [name, equals, t]) (by simp) (hname.value hn he hk) (by simp)
  | optionEnd options =>
      rcases next?_optionEnd.1 h with ⟨hk, rfl⟩ | ⟨hk, rfl⟩
      · exact keep _ _ rfl (.inr ⟨last, t, rfl, hk, hlast⟩) (by simp)
      · obtain ⟨opening, us, os, rfl, ht, hos, hval⟩ := hlast
        rw [show before ++ (group ++ opening :: us) ++ [t] =
          before ++ (group ++ (opening :: us ++ [t])) by simp]
        exact holds_complete ho hl (.options ht hos hk hval)

theorem holds_of_reads {p q : Parsing α} {ts us : List Token} (hp : p.Holds ts)
    (hus : ∀ t ∈ us, t.HasNumeral) (h : p.Reads us q) : q.Holds (ts ++ us) := by
  induction us generalizing p ts with
  | nil =>
      cases Parsing.reads_nil.1 h
      simpa using hp
  | cons t us ih =>
      obtain ⟨m, hm, hq⟩ := Parsing.reads_cons.1 h
      obtain ⟨ht, hus⟩ := List.forall_mem_cons.1 hus
      simpa using ih (holds_next hp ht hm) hus hq

/-! ## §4. Whole formulas. -/

/-- **Where the formula may end, the invariant is a derivation.** -/
theorem derives_of_holds {p : Parsing α} {ts : List Token} {e : Expr α} (hp : p.Holds ts)
    (h : p.result? = some e) : Derives .sum ts e := by
  obtain ⟨before, group, last, rfl, ho, hl, hlast, hs⟩ := hp
  unfold Parsing.result? at h
  split at h
  · rename_i operand hexp hout
    cases h
    rw [hout] at ho
    rw [hexp] at hlast
    cases ho
    exact hl.close (hs _ hexp) hlast
  · cases h

/-- **The tokens that the parser accepts are those that derive a tree,** and the tree is the one
that it builds, if numbers are spelled as numerals. -/
theorem reads_start_iff_derives {ts : List Token} {e : Expr α} (hts : ∀ t ∈ ts, t.HasNumeral) :
    (∃ p : Parsing α, Parsing.start.Reads ts p ∧ p.result? = some e) ↔ Derives .sum ts e := by
  constructor
  · rintro ⟨p, hr, he⟩
    exact derives_of_holds (holds_of_reads holds_start hts hr) he
  · exact reads_of_derives

omit [Quantity α] in
theorem conclude_eq_ok_iff {p : Parsing α} {position : Nat} {e : Expr α} :
    p.conclude position = .ok e ↔ p.result? = some e := by
  unfold Parsing.conclude
  cases p.result? <;> simp [Parsing.refuse]

/-- A formula parses if its tokens end with the formula and lead to a state in which it may end. -/
theorem parse_eq_ok_iff {formula : String} {e : Expr α} :
    parse formula = .ok e ↔ ∃ position, (Scanned.ofText formula).stop = .finish position ∧
      ∃ p : Parsing α, Parsing.start.Reads (Scanned.ofText formula).tokens p ∧
        p.result? = some e := by
  unfold parse Parsing.run
  constructor
  · intro h
    cases hr : (Scanned.ofText formula).tokens.foldlM Parsing.step (Parsing.start : Parsing α) with
    | error fault => rw [hr] at h; cases h
    | ok p =>
        rw [hr] at h
        cases hs : (Scanned.ofText formula).stop with
        | unrecognized position c => rw [hs] at h; cases h
        | finish position =>
            rw [hs] at h
            exact ⟨position, rfl, p, hr, conclude_eq_ok_iff.1 h⟩
  · rintro ⟨position, hs, p, hr, he⟩
    rw [show (Scanned.ofText formula).tokens.foldlM Parsing.step (Parsing.start : Parsing α) =
      .ok p from hr, hs]
    exact conclude_eq_ok_iff.2 he

/-- Tokenizing succeeds where the stream ends with the formula, and appends the end token. -/
theorem tokenize_eq_ok_iff {formula : String} {ts : List Token} {position : Nat} :
    tokenize formula = .ok (ts ++ [Token.finish position]) ↔
      (Scanned.ofText formula).stop = .finish position ∧ (Scanned.ofText formula).tokens = ts := by
  unfold tokenize
  dsimp only
  split
  · rename_i end' hs
    rw [hs]
    simp [Token.finish, and_comm]
  · rename_i hs
    simp [hs]

/-- **The parser accepts exactly its grammar.**  A formula parses to a tree if and only if it can be
cut into tokens and those before the end token derive the tree, in which every number is the one
that its numeral denotes; and no list of tokens derives two trees. -/
theorem parse_eq_ok_iff_derives :
    (∀ (formula : String) (e : Expr α), parse formula = .ok e ↔
      ∃ ts position, tokenize formula = .ok (ts ++ [Token.finish position]) ∧
        Derives .sum ts e) ∧
    ∀ (ts : List Token) (e f : Expr α), Derives .sum ts e → Derives .sum ts f → e = f := by
  refine ⟨?_, fun ts e f => derives_unique⟩
  intro formula e
  rw [parse_eq_ok_iff]
  have hnumerals : ∀ t ∈ (Scanned.ofText formula).tokens, t.HasNumeral :=
    fun t ht => hasNumeral_of_mem_tokens ht
  constructor
  · rintro ⟨position, hs, hr⟩
    exact ⟨_, position, tokenize_eq_ok_iff.2 ⟨hs, rfl⟩, (reads_start_iff_derives hnumerals).1 hr⟩
  · rintro ⟨ts, position, ht, hd⟩
    obtain ⟨hs, rfl⟩ := tokenize_eq_ok_iff.1 ht
    exact ⟨position, hs, reads_of_derives hd⟩

end MetricQuery
