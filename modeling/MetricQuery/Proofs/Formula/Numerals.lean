/-
  MetricQuery.Proofs.Formula.Numerals
  ───────────────────────────────────
  **THE NUMBERS THAT NUMERALS DENOTE.**

  A numeral is a run of digits, or two runs with a point between them.  Every
  digit counts the power of ten of its place, and the digits behind the point
  count tenths, hundredths and so on.  The parser reads digits from left to right
  and comes to the same number.

    • `Digits`              — a run of digits and its number, place by place,
    • `Numeral`             — a numeral and the decimal that it denotes,
    • `digits_iff`          — reading from left to right finds the number of a run,
    • `numberOf_of_numeral` — the number that the parser makes of a numeral,
    • `hasNumeral_of_mem_tokens` — the numbers of a formula are spelled as numerals.
-/
import Mathlib.Data.List.TakeWhile
import Mathlib.Tactic.Ring
import MetricQuery.Formula.Parser

namespace MetricQuery

open Text

/-! ## §1. Runs of digits. -/

/-- The ten digits.  Each has the value of its place in this list. -/
def tenDigits : List Char :=
  ['0', '1', '2', '3', '4', '5', '6', '7', '8', '9']

/-- **A run of digits and the number that it spells.**  A digit counts ten to the power of the
number of digits behind it. -/
inductive Digits : List Char → Nat → Prop
  | last {c : Char} {d : Nat} (h : tenDigits[d]? = some c) : Digits [c] d
  | more {c : Char} {cs : List Char} {d n : Nat} (h : tenDigits[d]? = some c) (hs : Digits cs n) :
      Digits (c :: cs) (d * 10 ^ cs.length + n)

/-- A digit of the list is one of the parser's, with the same value. -/
theorem digitValue_of_tenDigits {c : Char} {d : Nat} (h : tenDigits[d]? = some c) :
    isDigit c = true ∧ digitValue c = d := by
  match d, h with
  | 0, rfl | 1, rfl | 2, rfl | 3, rfl | 4, rfl | 5, rfl | 6, rfl | 7, rfl | 8, rfl | 9, rfl =>
      exact ⟨by decide, by decide⟩

theorem tenDigits_digitValue {c : Char} (h : isDigit c = true) :
    tenDigits[digitValue c]? = some c := by
  have hplace : ∀ d < 10, tenDigits[d]? = some (Char.ofNat (d + '0'.toNat)) := by decide
  simp only [isDigit, Bool.and_eq_true, decide_eq_true_eq] at h
  have hlow : '0'.toNat ≤ c.toNat := h.1
  have hhigh : c.toNat ≤ '9'.toNat := h.2
  rw [hplace (digitValue c) (Nat.sub_lt_left_of_lt_add hlow (Nat.lt_succ_of_le hhigh)), digitValue,
    Nat.sub_add_cancel hlow, Char.ofNat_toNat]

/-- What has been read before counts ten for every digit that follows. -/
theorem digitsFrom_eq (n : Nat) (cs : List Char) :
    digitsFrom n cs = n * 10 ^ cs.length + digitsValue cs := by
  induction cs generalizing n with
  | nil => simp [digitsFrom, digitsValue]
  | cons c cs ih =>
      have hstep : ∀ n, digitsFrom n (c :: cs) = digitsFrom (10 * n + digitValue c) cs :=
        fun _ => rfl
      rw [digitsValue, hstep, hstep, ih, ih (10 * 0 + digitValue c), List.length_cons]
      ring

/-- The number of two runs side by side. -/
theorem digitsValue_append (cs ds : List Char) :
    digitsValue (cs ++ ds) = digitsValue cs * 10 ^ ds.length + digitsValue ds := by
  rw [digitsValue, digitsFrom_append, digitsFrom_eq]
  rfl

theorem digitsValue_cons (c : Char) (cs : List Char) :
    digitsValue (c :: cs) = digitValue c * 10 ^ cs.length + digitsValue cs := by
  have h := digitsValue_append [c] cs
  simpa [digitsValue, digitsFrom] using h

/-- **Reading from left to right finds the number of a run of digits.** -/
theorem digits_iff {cs : List Char} {n : Nat} :
    Digits cs n ↔ cs ≠ [] ∧ (∀ c ∈ cs, isDigit c = true) ∧ digitsValue cs = n := by
  constructor
  · intro h
    induction h with
    | @last c d h =>
        obtain ⟨hdigit, hvalue⟩ := digitValue_of_tenDigits h
        exact ⟨by simp, by simpa using hdigit, by simpa [digitsValue, digitsFrom] using hvalue⟩
    | @more c cs d n h hs ih =>
        obtain ⟨hdigit, hvalue⟩ := digitValue_of_tenDigits h
        obtain ⟨-, hall, hrest⟩ := ih
        refine ⟨by simp, List.forall_mem_cons.2 ⟨hdigit, hall⟩, ?_⟩
        rw [digitsValue_cons, hvalue, hrest]
  · rintro ⟨hne, hall, rfl⟩
    induction cs with
    | nil => exact absurd rfl hne
    | cons c cs ih =>
        obtain ⟨hdigit, hall⟩ := List.forall_mem_cons.1 hall
        rw [digitsValue_cons]
        cases cs with
        | nil => simpa [digitsValue, digitsFrom] using Digits.last (tenDigits_digitValue hdigit)
        | cons d ds => exact .more (tenDigits_digitValue hdigit) (ih (by simp) hall)

/-! ## §2. Numerals. -/

/-- **A numeral and the decimal that it denotes.**  Digits behind a point count fractions of one. -/
inductive Numeral : List Char → Decimal → Prop
  | whole {cs : List Char} {n : Nat} (h : Digits cs n) : Numeral cs ⟨n, 0⟩
  | pointed {ws fs : List Char} {w f : Nat} (hw : Digits ws w) (hf : Digits fs f) :
      Numeral (ws ++ '.' :: fs) ⟨w * 10 ^ fs.length + f, -fs.length⟩

/-- Digits, or digits with a point and more digits after it. -/
inductive IsNumeral : List Char → Prop
  | whole {cs : List Char} (h : ∀ c ∈ cs, isDigit c = true) : IsNumeral cs
  | pointed {w f : List Char} (hw : ∀ c ∈ w, isDigit c = true) (hf : ∀ c ∈ f, isDigit c = true)
      (hne : f ≠ []) : IsNumeral (w ++ '.' :: f)

/-- A numeral that begins with a digit denotes a number. -/
theorem IsNumeral.exists_numeral {c : Char} {cs : List Char} (h : IsNumeral (c :: cs))
    (hc : isDigit c = true) : ∃ d, Numeral (c :: cs) d := by
  generalize htext : c :: cs = text at h
  cases h with
  | whole h =>
      subst htext
      exact ⟨_, .whole (digits_iff.2 ⟨by simp, h, rfl⟩)⟩
  | @pointed w f hw hf hne =>
      have hwhole : w ≠ [] := by
        rintro rfl
        obtain ⟨rfl, -⟩ := List.cons.inj htext
        exact absurd hc (by decide)
      exact ⟨_, .pointed (digits_iff.2 ⟨hwhole, hw, rfl⟩) (digits_iff.2 ⟨hne, hf, rfl⟩)⟩

theorem isNumeral_splitNumber (cs : List Char) : IsNumeral (splitNumber cs).1 := by
  have hrun : ∀ cs : List Char, ∀ c ∈ cs.takeWhile isDigit, isDigit c = true :=
    fun cs c hc => List.mem_takeWhile_imp hc
  unfold splitNumber
  dsimp only
  split
  · split
    · exact .whole (hrun cs)
    · rename_i hne
      exact .pointed (hrun cs) (hrun _) (by simpa using hne)
  · exact .whole (hrun cs)

/-- **The number that the parser makes of a numeral** is the one that the numeral denotes. -/
theorem numberOf_of_numeral {α : Type} [Quantity α] {text : String} {d : Decimal}
    (h : Numeral text.toList d) : (Parsing.numberOf text : α) = Quantity.ofDecimal d := by
  unfold Parsing.numberOf Decimal.ofParts
  generalize text.toList = cs at h ⊢
  cases h with
  | @whole cs n h =>
      obtain ⟨-, hall, hvalue⟩ := digits_iff.1 h
      rw [List.takeWhile_eq_self_iff.2 hall, List.dropWhile_eq_nil_iff.2 hall]
      simp [hvalue]
  | @pointed ws fs w f hw hf =>
      obtain ⟨-, hall, hwhole⟩ := digits_iff.1 hw
      obtain ⟨-, -, hfraction⟩ := digits_iff.1 hf
      rw [List.takeWhile_append_of_pos hall, List.dropWhile_append_of_pos hall,
        List.takeWhile_cons_of_neg (by decide), List.dropWhile_cons_of_neg (by decide)]
      simp [digitsValue_append, hwhole, hfraction]

/-! ## §3. The numbers of a formula. -/

/-- If the token is a number, then it is spelled as a numeral. -/
def Token.HasNumeral (t : Token) : Prop :=
  t.kind = .number → ∃ d, Numeral t.text.toList d

theorem numeral_of_nextLexeme {c : Char} {cs : List Char} {l : Lexeme}
    (h : nextLexeme c cs = some l) (hl : l.kind = .number) : ∃ d, Numeral l.text d := by
  unfold nextLexeme at h
  split at h
  · rename_i kind hmark
    cases h
    -- No punctuation mark is a number.
    unfold punctuation? at hmark
    split at hmark <;> cases hmark <;> cases hl
  · split at h
    · rename_i hdigit
      cases h
      have hne : (splitNumber (c :: cs)).1 ≠ [] := splitNumber_fst_ne_nil hdigit
      obtain ⟨d, tail, htext⟩ := List.exists_cons_of_ne_nil hne
      have happend := splitNumber_append (c :: cs)
      have hnumeral := isNumeral_splitNumber (c :: cs)
      rw [htext] at happend hnumeral
      obtain ⟨rfl, -⟩ := List.cons.inj happend
      show ∃ e, Numeral (splitNumber (d :: cs)).1 e
      rw [htext]
      exact hnumeral.exists_numeral hdigit
    · split at h
      · cases h
        cases hl
      · cases h

theorem hasNumeral_of_scan {position : Nat} {cs rest : List Char} {t : Token}
    (h : scan position cs = .token t rest) : t.HasNumeral := by
  unfold scan at h
  dsimp only at h
  split at h
  · cases h
  · split at h
    · rename_i l hl
      cases h
      intro hkind
      rw [String.toList_ofList]
      exact numeral_of_nextLexeme hl hkind
    · cases h

/-- **The numbers of a formula are spelled as numerals.** -/
theorem hasNumeral_of_mem_tokens {position : Nat} {cs : List Char} : ∀ {t : Token},
    t ∈ (Scanned.ofChars position cs).tokens → t.HasNumeral := by
  induction position, cs using Scanned.ofChars.induct with
  | case1 position cs t rest hscan ih =>
      intro u hu
      rw [Scanned.ofChars_of_token hscan] at hu
      rcases List.mem_cons.1 hu with rfl | hu
      · exact hasNumeral_of_scan hscan
      · exact ih hu
  | case2 position cs s rest hscan =>
      intro u hu
      rw [Scanned.ofChars_of_stop hscan] at hu
      cases hu

end MetricQuery
