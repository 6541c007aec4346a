/-
  MetricQuery.Proofs.Formula.Grammar
  ──────────────────────────────────
  **THE GRAMMAR OF FORMULAS, AND THAT THE PARSER ACCEPTS IT.**

  The grammar relates a list of tokens, without the end token, to the tree that
  it stands for.  It is written down rule by rule and knows nothing of the
  parser's states:

      sum      := product (('+' | '-') sum)?
      product  := operand (('*' | '/') product)?
      operand  := '(' sum ')' | '[' options ']' | number | ('+' | '-') operand
      options  := option (',' options)?
      option   := identifier '=' (identifier | number)

  An operand that is a number has the value of its numeral.

    • `Derives`            — the rules, with the tree of each,
    • `OptionsDerive`      — the options between brackets, in the order in which they stand,
    • `Delivers`           — what reading a phrase leaves behind in the state of the parser,
    • `delivers_of_derives` — the parser reads every phrase of the grammar,
    • `derives_unique`     — a list of tokens has at most one tree.
-/
import MetricQuery.Formula.Descent
import MetricQuery.Proofs.Formula.Numerals

namespace MetricQuery

variable {α : Type} [Quantity α]

/-! ## §1. The rules. -/

/-- An option with its value. -/
inductive OptionDerives : List Token → String × String → Prop
  | assign {key equals value : Token} (hk : key.kind = .identifier) (he : equals.kind = .equals)
      (hv : value.kind = .identifier ∨ value.kind = .number) :
      OptionDerives [key, equals, value] (key.text, value.text)

/-- Options with commas between them. -/
inductive OptionsDerive : List Token → List (String × String) → Prop
  | one {ts : List Token} {o : String × String} (h : OptionDerives ts o) : OptionsDerive ts [o]
  | more {ts us : List Token} {comma : Token} {o : String × String} {os : List (String × String)}
      (h : OptionDerives ts o) (hc : comma.kind = .comma) (hs : OptionsDerive us os) :
      OptionsDerive (ts ++ comma :: us) (o :: os)

/-- The value of an option that is given several times is the last one. -/
def lastValue (os : List (String × String)) (key : String) : Option String :=
  (os.reverse.find? fun o => o.1 == key).map Prod.snd

/-- **The grammar.**  Both levels of operators group to the right, and parentheses leave no trace in
the tree.  A number is the one that its numeral denotes, digit by digit. -/
inductive Derives : Phrase → List Token → Expr α → Prop
  | lastProduct {ts : List Token} {e : Expr α} (h : Derives .product ts e) : Derives .sum ts e
  | addition {ts us : List Token} {t : Token} {op : BinaryOp} {l r : Expr α}
      (hl : Derives .product ts l) (hop : op = .add ∨ op = .subtract)
      (ht : t.isOperator op.symbol = true) (hr : Derives .sum us r) :
      Derives .sum (ts ++ t :: us) (.binary l op r)
  | lastOperand {ts : List Token} {e : Expr α} (h : Derives .operand ts e) : Derives .product ts e
  | multiplication {ts us : List Token} {t : Token} {op : BinaryOp} {l r : Expr α}
      (hl : Derives .operand ts l) (hop : op = .multiply ∨ op = .divide)
      (ht : t.isOperator op.symbol = true) (hr : Derives .product us r) :
      Derives .product (ts ++ t :: us) (.binary l op r)
  | group {ts : List Token} {t u : Token} {e : Expr α} (ht : t.kind = .openParen)
      (h : Derives .sum ts e) (hu : u.kind = .closeParen) : Derives .operand (t :: ts ++ [u]) e
  | options {ts : List Token} {t u : Token} {os : List (String × String)} {options : Options}
      (ht : t.kind = .openBracket) (h : OptionsDerive ts os) (hu : u.kind = .closeBracket)
      (ho : ∀ key, options[key]? = lastValue os key) :
      Derives .operand (t :: ts ++ [u]) (.variable options)
  | number {t : Token} {d : Text.Decimal} (ht : t.kind = .number) (hd : Numeral t.text.toList d) :
      Derives .operand [t] (.number (Quantity.ofDecimal d))
  | sign {ts : List Token} {t : Token} {sign : Sign} {e : Expr α}
      (ht : t.isOperator sign.symbol = true) (h : Derives .operand ts e) :
      Derives .operand (t :: ts) (.unary sign e)

/-! ## §2. Tokens as the parser sees them. -/

theorem kind_of_isOperator {t : Token} {c : Char} (h : t.isOperator c = true) :
    t.kind = .operator := by
  simp only [Token.isOperator, Bool.and_eq_true, beq_iff_eq] at h
  exact h.1

theorem eq_of_isOperator {t : Token} {c d : Char} (hc : t.isOperator c = true)
    (hd : t.isOperator d = true) : c = d := by
  simp only [Token.isOperator, Bool.and_eq_true, beq_iff_eq] at hc hd
  have h : String.singleton c = String.singleton d := hc.2.symm.trans hd.2
  simpa using congrArg String.toList h

/-- Of things that are all written differently, a token is at most one. -/
theorem find?_isOperator_eq_some_iff {β : Type} {all : List β} {symbol : β → Char}
    (hall : ∀ b, b ∈ all) (hinj : ∀ b c, symbol b = symbol c → b = c) {t : Token} {b : β} :
    (all.find? fun b => t.isOperator (symbol b)) = some b ↔ t.isOperator (symbol b) = true := by
  constructor
  · intro h
    exact List.find?_some (p := fun b => t.isOperator (symbol b)) h
  · intro h
    cases hf : all.find? fun b => t.isOperator (symbol b) with
    | none => exact absurd h (List.find?_eq_none.1 hf b (hall b))
    | some c =>
        have hc := List.find?_some (p := fun b => t.isOperator (symbol b)) hf
        rw [hinj c b (eq_of_isOperator hc h)]

/-- A token is at most one operator, and the parser finds it. -/
theorem operatorOf?_eq_some_iff {t : Token} {op : BinaryOp} :
    Parsing.operatorOf? t = some op ↔ t.isOperator op.symbol = true :=
  find?_isOperator_eq_some_iff (by intro op; cases op <;> decide)
    (by intro op other h; cases op <;> cases other <;> first | rfl | cases h)

/-- A token is at most one sign, and the parser finds it. -/
theorem signOf?_eq_some_iff {t : Token} {sign : Sign} :
    Parsing.signOf? t = some sign ↔ t.isOperator sign.symbol = true :=
  find?_isOperator_eq_some_iff (by intro sign; cases sign <;> decide)
    (by intro sign other h; cases sign <;> cases other <;> first | rfl | cases h)

section Options

variable {level : Level α} {outer : List (Level α)} {options : Options} {key : String} {t : Token}
  {q : Parsing α}

theorem next?_optionName :
    Parsing.next? ⟨level, outer, .optionName options⟩ t = some q ↔
      t.kind = .identifier ∧ ⟨level, outer, .optionEquals options t.text⟩ = q := by
  cases hk : t.kind <;> simp [Parsing.next?, hk]

theorem next?_optionEquals :
    Parsing.next? ⟨level, outer, .optionEquals options key⟩ t = some q ↔
      t.kind = .equals ∧ ⟨level, outer, .optionValue options key⟩ = q := by
  cases hk : t.kind <;> simp [Parsing.next?, hk]

theorem next?_optionValue :
    Parsing.next? ⟨level, outer, .optionValue options key⟩ t = some q ↔
      (t.kind = .identifier ∨ t.kind = .number) ∧
        ⟨level, outer, .optionEnd (options.insert key t.text)⟩ = q := by
  cases hk : t.kind <;> simp [Parsing.next?, hk]

theorem next?_optionEnd :
    Parsing.next? ⟨level, outer, .optionEnd options⟩ t = some q ↔
      (t.kind = .comma ∧ ⟨level, outer, .optionName options⟩ = q) ∨
        (t.kind = .closeBracket ∧ Parsing.complete level outer (.variable options) = q) := by
  cases hk : t.kind <;> simp [Parsing.next?, hk]

end Options

/-! ## §3. Reading a list of tokens. -/

/-- From state `p` the tokens lead to state `q`. -/
def Parsing.Reads (p : Parsing α) (ts : List Token) (q : Parsing α) : Prop :=
  ts.foldlM Parsing.step p = .ok q

namespace Parsing

theorem step_eq_ok_iff {p q : Parsing α} {t : Token} : p.step t = .ok q ↔ p.next? t = some q := by
  unfold step
  cases p.next? t <;> simp [refuse]

theorem reads_nil {p q : Parsing α} : p.Reads [] q ↔ p = q := by
  simp [Reads, pure, Except.pure]

theorem reads_cons {p q : Parsing α} {t : Token} {ts : List Token} :
    p.Reads (t :: ts) q ↔ ∃ m, p.next? t = some m ∧ m.Reads ts q := by
  simp only [Reads, List.foldlM_cons]
  constructor
  · intro h
    cases hs : p.step t with
    | error fault => rw [hs] at h; cases h
    | ok m => rw [hs] at h; exact ⟨m, step_eq_ok_iff.1 hs, h⟩
  · rintro ⟨m, hm, h⟩
    rw [step_eq_ok_iff.2 hm]
    exact h

theorem reads_append {p q : Parsing α} {ts us : List Token} :
    p.Reads (ts ++ us) q ↔ ∃ m, p.Reads ts m ∧ m.Reads us q := by
  induction ts generalizing p with
  | nil => simp [reads_nil]
  | cons t ts ih =>
      rw [List.cons_append, reads_cons]
      constructor
      · rintro ⟨n, hn, h⟩
        obtain ⟨m, hm, hq⟩ := ih.1 h
        exact ⟨m, reads_cons.2 ⟨n, hn, hm⟩, hq⟩
      · rintro ⟨m, hm, hq⟩
        obtain ⟨n, hn, hr⟩ := reads_cons.1 hm
        exact ⟨n, hn, ih.2 ⟨m, hr, hq⟩⟩

theorem reads_singleton {p q : Parsing α} {t : Token} : p.Reads [t] q ↔ p.next? t = some q := by
  simp [reads_cons, reads_nil]

theorem Reads.unique {p q r : Parsing α} {ts : List Token} (hq : p.Reads ts q)
    (hr : p.Reads ts r) : q = r := by
  have h : (Except.ok q : Except Fault (Parsing α)) = .ok r := hq.symm.trans hr
  injection h

end Parsing

/-! ## §4. The parser reads every phrase. -/

/-- The options that result from adding `os` in order. -/
def Options.extend (options : Options) (os : List (String × String)) : Options :=
  os.foldl (fun options o => options.insert o.1 o.2) options

theorem Options.getElem?_extend (options : Options) (os : List (String × String)) (key : String) :
    (options.extend os)[key]? = (lastValue os key).or options[key]? := by
  induction os generalizing options with
  | nil => rfl
  | cons o os ih =>
      have hstep : options.extend (o :: os) = Options.extend (options.insert o.1 o.2) os := rfl
      rw [hstep, ih, Std.ExtTreeMap.getElem?_insert]
      simp only [lastValue, List.reverse_cons, List.find?_append]
      cases List.find? (fun o => o.1 == key) os.reverse with
      | some q => simp
      | none => by_cases h : o.1 = key <;> simp [h]

/-- Options with these values are the ones that the parser collects. -/
theorem Options.eq_extend {options : Options} {os : List (String × String)}
    (h : ∀ key, options[key]? = lastValue os key) : options = Options.extend ∅ os := by
  refine Std.ExtTreeMap.ext_getElem? fun {key} => ?_
  rw [h key, Options.getElem?_extend]
  simp

theorem reads_option {level : Level α} {outer : List (Level α)} {options : Options}
    {ts : List Token} {o : String × String} (h : OptionDerives ts o) :
    Parsing.Reads ⟨level, outer, .optionName options⟩ ts
      ⟨level, outer, .optionEnd (options.insert o.1 o.2)⟩ := by
  cases h with
  | @assign key equals value hk he hv =>
      refine Parsing.reads_cons.2 ⟨_, next?_optionName.2 ⟨hk, rfl⟩, ?_⟩
      refine Parsing.reads_cons.2 ⟨_, next?_optionEquals.2 ⟨he, rfl⟩, ?_⟩
      exact Parsing.reads_singleton.2 (next?_optionValue.2 ⟨hv, rfl⟩)

theorem reads_options {level : Level α} {outer : List (Level α)} {ts : List Token}
    {os : List (String × String)} (h : OptionsDerive ts os) : ∀ options : Options,
    Parsing.Reads ⟨level, outer, .optionName options⟩ ts
      ⟨level, outer, .optionEnd (options.extend os)⟩ := by
  induction h with
  | one h =>
      intro options
      exact reads_option h
  | @more ts us comma o os h hc hs ih =>
      intro options
      exact Parsing.reads_append.2 ⟨_, reads_option h,
        Parsing.reads_cons.2 ⟨_, next?_optionEnd.2 (.inl ⟨hc, rfl⟩), ih _⟩⟩

/-- What is pending when a phrase begins: a product begins after no sign, and a sum after no left
operand of a product either. -/
def Begins : Phrase → Level α → Prop
  | .operand, _ => True
  | .product, level => level.signs = []
  | .sum, level => level.signs = [] ∧ level.products = []

/-- **What a phrase with the tree `e` leaves behind:** the pending group `after` and the last
operand `x`, which together amount to what `e` would amount to in the group before it. -/
def Delivers : Phrase → Level α → Expr α → Level α → Expr α → Prop
  | .operand, level, e, after, x => after = { level with signs := [] } ∧ x = level.signed e
  | .product, level, e, after, x =>
      after.signs = [] ∧ after.sums = level.sums ∧ after.product x = level.product e
  | .sum, level, e, after, x => after.signs = [] ∧ after.close x = level.close e

/-- **The parser reads every phrase of the grammar.** -/
theorem delivers_of_derives {phrase : Phrase} {ts : List Token} {e : Expr α}
    (h : Derives phrase ts e) : ∀ (level : Level α) (outer : List (Level α)), Begins phrase level →
      ∃ after x, Parsing.Reads ⟨level, outer, .operand⟩ ts ⟨after, outer, .operator x⟩ ∧
        Delivers phrase level e after x := by
  induction h with
  | lastProduct _ ih =>
      rintro level outer ⟨hs, hp⟩
      obtain ⟨after, x, hr, ha, hsum, hx⟩ := ih level outer hs
      refine ⟨after, x, hr, ha, ?_⟩
      simp only [Level.close, hsum, hx]
  | @addition ts us t op l r _ hop ht _ ihl ihr =>
      rintro level outer ⟨hs, hp⟩
      obtain ⟨after, x, hread, -, hsum, hx⟩ := ihl level outer hs
      have hl : after.product x = l := by
        rw [hx, Level.product, hp]
        rfl
      -- The left operand is complete, and the rest is a sum of a group in which it waits.
      obtain ⟨last, y, hread', hsigns, hy⟩ := ihr ⟨(l, op) :: level.sums, [], []⟩ outer ⟨rfl, rfl⟩
      refine ⟨last, y, Parsing.reads_append.2 ⟨_, hread, Parsing.reads_cons.2 ⟨_, ?_, hread'⟩⟩,
        hsigns, ?_⟩
      · simp only [Parsing.next?, Parsing.afterOperatorToken?, kind_of_isOperator ht,
          operatorOf?_eq_some_iff.2 ht, Option.map_some]
        rcases hop with rfl | rfl <;> simp [Parsing.operate, hl, hsum]
      · rw [hy]
        simp [Level.close, Level.product, Level.join, hp]
  | lastOperand _ ih =>
      intro level outer hs
      obtain ⟨after, x, hr, rfl, rfl⟩ := ih level outer trivial
      refine ⟨_, _, hr, rfl, rfl, ?_⟩
      rw [Level.signed, show level.signs = [] from hs]
      rfl
  | @multiplication ts us t op l r _ hop ht _ ihl ihr =>
      intro level outer hs
      obtain ⟨after, x, hread, rfl, rfl⟩ := ihl level outer trivial
      have hl : level.signed l = l := by
        rw [Level.signed, show level.signs = [] from hs]
        rfl
      obtain ⟨last, y, hread', hsigns, hsum, hy⟩ :=
        ihr ⟨level.sums, (l, op) :: level.products, []⟩ outer rfl
      refine ⟨last, y, Parsing.reads_append.2 ⟨_, hread, Parsing.reads_cons.2 ⟨_, ?_, hread'⟩⟩,
        hsigns, hsum, hy⟩
      simp only [Parsing.next?, Parsing.afterOperatorToken?, kind_of_isOperator ht,
        operatorOf?_eq_some_iff.2 ht, Option.map_some]
      rcases hop with rfl | rfl <;> simp [Parsing.operate, hl]
  | @group ts t u e ht _ hu ih =>
      rintro level outer -
      -- Inside of the parentheses a group begins anew, and the one around it waits.
      obtain ⟨after, x, hread, -, hx⟩ := ih Level.empty (level :: outer) ⟨rfl, rfl⟩
      refine ⟨_, _, Parsing.reads_cons.2 ⟨_, ?_, Parsing.reads_append.2
        ⟨_, hread, Parsing.reads_singleton.2 ?_⟩⟩, rfl, rfl⟩
      · simp [Parsing.next?, Parsing.afterOperandToken?, ht]
      · simp only [Parsing.next?, Parsing.afterOperatorToken?, hu, hx]
        rfl
  | @options ts t u os options ht h hu ho =>
      rintro level outer -
      have hopen : Parsing.next? ⟨level, outer, .operand⟩ t =
          some (⟨level, outer, .optionName ∅⟩ : Parsing α) := by
        simp [Parsing.next?, Parsing.afterOperandToken?, ht]
      have hclose : Parsing.next? ⟨level, outer, .optionEnd (Options.extend ∅ os)⟩ u =
          some (Parsing.complete level outer (.variable options)) :=
        next?_optionEnd.2 (.inr ⟨hu, by rw [← Options.eq_extend ho]⟩)
      exact ⟨_, _, Parsing.reads_cons.2 ⟨_, hopen, Parsing.reads_append.2
        ⟨_, reads_options h ∅, Parsing.reads_singleton.2 hclose⟩⟩, rfl, rfl⟩
  | @number t d ht hd =>
      rintro level outer -
      refine ⟨_, _, Parsing.reads_singleton.2 ?_, rfl, rfl⟩
      simp only [Parsing.next?, Parsing.afterOperandToken?, ht, numberOf_of_numeral hd]
      rfl
  | @sign ts t sign e ht _ ih =>
      rintro level outer -
      obtain ⟨after, x, hread, rfl, rfl⟩ :=
        ih { level with signs := sign :: level.signs } outer trivial
      refine ⟨_, _, Parsing.reads_cons.2 ⟨_, ?_, hread⟩, rfl, rfl⟩
      simp only [Parsing.next?, Parsing.afterOperandToken?, kind_of_isOperator ht,
        signOf?_eq_some_iff.2 ht, Option.map_some]

/-- A sum takes the parser from the beginning to a state in which the formula may end with its
tree. -/
theorem reads_of_derives {ts : List Token} {e : Expr α} (h : Derives .sum ts e) :
    ∃ p : Parsing α, Parsing.start.Reads ts p ∧ p.result? = some e := by
  obtain ⟨after, x, hr, -, hx⟩ := delivers_of_derives h Level.empty [] ⟨rfl, rfl⟩
  refine ⟨_, hr, ?_⟩
  simp only [Parsing.result?, hx]
  rfl

/-- **A list of tokens has at most one tree.** -/
theorem derives_unique {ts : List Token} {e f : Expr α} (he : Derives .sum ts e)
    (hf : Derives .sum ts f) : e = f := by
  -- The parser reads both derivations, and it is a function of the tokens.
  obtain ⟨p, hp, hpe⟩ := reads_of_derives he
  obtain ⟨q, hq, hqf⟩ := reads_of_derives hf
  rw [hp.unique hq, hqf] at hpe
  exact (Option.some.inj hpe).symm

end MetricQuery
