/-
  MetricQuery.Proofs.Floating
  ───────────────────────────
  **HOW FLOATING-POINT NUMBERS COMPARE.**

  Every floating-point number but the undefined one has a place in a linear
  order, and comparisons go by the places.  The two zeros share theirs.  The
  undefined number has no place, so it is neither less than anything, nor
  greater, nor equal to anything.

    • `Places`              — comparisons that go by places,
    • `Quantity.Alike`      — equal, or both undefined,
    • `Places.alike_iff`    — which means the same place, or none,
    • `Places.alike_of_not_less` — which any two numbers are of which neither is less,
    • `place?`              — the place of a floating-point number,
    • `places_float`        — floating-point numbers compare by these places,
    • `undefined_eq_isNaN`  — which of them is the undefined one.
-/
import Mathlib
import MetricQuery.Quantity

namespace MetricQuery

/-! ## §1. Numbers with places. -/

section Places

variable {α ι : Type} [Quantity α] [LinearOrder ι] {place : α → Option ι} {x y z : α}

/-- Comparisons go by places in a linear order.  A value without a place fails all of them. -/
structure Places (place : α → Option ι) : Prop where
  less_iff : ∀ x y, Quantity.less x y = true ↔
    ∃ p, place x = some p ∧ ∃ q, place y = some q ∧ p < q
  equal_iff : ∀ x y, Quantity.equal x y = true ↔ ∃ p, place x = some p ∧ place y = some p

/-- The two are equal, or both are undefined. -/
def Quantity.Alike (x y : α) : Prop :=
  Quantity.equal x y = true ∨ (Quantity.undefined x = true ∧ Quantity.undefined y = true)

instance (x y : α) : Decidable (Quantity.Alike x y) :=
  inferInstanceAs (Decidable (_ ∨ _ ∧ _))

/-- What is undefined has no place. -/
theorem Places.undefined_iff (h : Places place) : Quantity.undefined x = true ↔ place x = none := by
  unfold Quantity.undefined
  rw [Bool.not_eq_true', Bool.eq_false_iff, ne_eq, h.equal_iff]
  cases place x <;> simp

theorem Places.defined_iff (h : Places place) :
    Quantity.undefined x = false ↔ ∃ p, place x = some p := by
  rw [Bool.eq_false_iff, ne_eq, h.undefined_iff, ← ne_eq, Option.ne_none_iff_exists']

/-- **Values are alike if they have the same place, or none.** -/
theorem Places.alike_iff (h : Places place) : Quantity.Alike x y ↔ place x = place y := by
  unfold Quantity.Alike
  rw [h.equal_iff, h.undefined_iff, h.undefined_iff]
  cases place x with
  | none => cases place y <;> simp
  | some p => cases place y <;> simp [eq_comm]

/-- Of two values that are alike, both are undefined or neither is. -/
theorem Places.undefined_eq (h : Places place) (hxy : Quantity.Alike x y) :
    Quantity.undefined x = Quantity.undefined y := by
  rw [Bool.eq_iff_iff, h.undefined_iff, h.undefined_iff, h.alike_iff.1 hxy]

/-- What is less than something, or greater, is defined. -/
theorem Places.defined_of_less (h : Places place) (hxy : Quantity.less x y = true) :
    Quantity.undefined x = false ∧ Quantity.undefined y = false := by
  obtain ⟨p, hp, q, hq, -⟩ := (h.less_iff x y).1 hxy
  exact ⟨h.defined_iff.2 ⟨p, hp⟩, h.defined_iff.2 ⟨q, hq⟩⟩

theorem Places.less_irrefl (h : Places place) (x : α) : Quantity.less x x = false := by
  rw [Bool.eq_false_iff, ne_eq, h.less_iff]
  rintro ⟨p, hp, q, hq, hlt⟩
  rw [hp, Option.some.injEq] at hq
  exact absurd hq hlt.ne

theorem Places.less_trans (h : Places place) (hxy : Quantity.less x y = true)
    (hyz : Quantity.less y z = true) : Quantity.less x z = true := by
  obtain ⟨p, hp, q, hq, hlt⟩ := (h.less_iff x y).1 hxy
  obtain ⟨q', hq', r, hr, hlt'⟩ := (h.less_iff y z).1 hyz
  rw [hq, Option.some.injEq] at hq'
  exact (h.less_iff x z).2 ⟨p, hp, r, hr, hlt.trans (hq' ▸ hlt')⟩

/-- **Two numbers of which neither is less than the other** are alike. -/
theorem Places.alike_of_not_less (h : Places place) (hx : Quantity.undefined x = false)
    (hy : Quantity.undefined y = false) (hxy : Quantity.less x y = false)
    (hyx : Quantity.less y x = false) : Quantity.Alike x y := by
  obtain ⟨p, hp⟩ := h.defined_iff.1 hx
  obtain ⟨q, hq⟩ := h.defined_iff.1 hy
  rw [Bool.eq_false_iff, ne_eq, h.less_iff] at hxy hyx
  rw [h.alike_iff, hp, hq]
  rcases lt_trichotomy p q with hlt | heq | hlt
  · exact absurd ⟨p, hp, q, hq, hlt⟩ hxy
  · rw [heq]
  · exact absurd ⟨q, hq, p, hp, hlt⟩ hyx

end Places

/-! ## §2. Floating-point numbers. -/

open Float.Model (UnpackedFloat)

/-- A place among the floating-point numbers: whether the number is finite and on which side of
zero it is, then its exponent, then its mantissa. -/
abbrev Place : Type :=
  ℤ ×ₗ ℤ ×ₗ ℤ

/-- The place of a number.  Below zero the larger exponent and mantissa come first. -/
def place? : UnpackedFloat → Option Place
  | .notANumber => none
  | .infinity s => some (toLex (s.apply 2, toLex (0, 0)))
  | .zero _ => some (toLex (0, toLex (0, 0)))
  | .finite s m e _ => some (toLex (s.apply 1, toLex (s.apply e, s.apply m)))

theorem compare_sign_eq_lt_iff (s t : UnpackedFloat.Sign) :
    compare s t = .lt ↔ s.apply 2 < t.apply 2 := by
  cases s <;> cases t <;> decide

theorem compare_sign_eq_eq_iff (s t : UnpackedFloat.Sign) :
    compare s t = .eq ↔ s.apply 2 = t.apply 2 := by
  cases s <;> cases t <;> decide

/-- **One number is less than another if its place comes first.** -/
theorem lt_iff_place (x y : UnpackedFloat) :
    x.lt y = true ↔ ∃ p, place? x = some p ∧ ∃ q, place? y = some q ∧ p < q := by
  unfold UnpackedFloat.lt
  -- Numbers of one kind and sign compare by exponent and mantissa, others by kind and sign alone.
  rcases x with s | _ | s | ⟨_ | _, m, e, hm⟩ <;> rcases y with t | _ | t | ⟨_ | _, n, f, hn⟩ <;>
    (try cases s) <;> (try cases t) <;>
    simp [UnpackedFloat.compare, place?, Prod.Lex.toLex_lt_toLex, UnpackedFloat.Sign.apply,
      Ordering.then_eq_lt, Ordering.then_eq_gt, compare_sign_eq_lt_iff, compare_lt_iff_lt,
      compare_gt_iff_gt]

/-- **Two numbers are equal if they share a place.** -/
theorem beq_iff_place (x y : UnpackedFloat) :
    x.beq y = true ↔ ∃ p, place? x = some p ∧ place? y = some p := by
  unfold UnpackedFloat.beq
  rcases x with s | _ | s | ⟨_ | _, m, e, hm⟩ <;> rcases y with t | _ | t | ⟨_ | _, n, f, hn⟩ <;>
    (try cases s) <;> (try cases t) <;>
    simp [UnpackedFloat.compare, place?, UnpackedFloat.Sign.apply, Ordering.then_eq_eq,
      compare_sign_eq_eq_iff]
  -- What is left are two numbers of one sign, with their exponents and mantissas.
  all_goals omega

/-- **Floating-point numbers compare by their places.** -/
theorem places_float : Places fun x : Float => place? x.toModel.unpack where
  less_iff x y := by
    have hless : Quantity.less x y = x.toModel.unpack.lt y.toModel.unpack := by
      show decide (Float.lt x y = true) = _
      unfold Float.lt
      rw [Bool.decide_eq_true, Bool.eq_iff_iff, decide_eq_true_iff]
      rfl
    rw [hless]
    exact lt_iff_place _ _
  equal_iff x y := beq_iff_place x.toModel.unpack y.toModel.unpack

/-! ## §3. Kinds of floating-point numbers. -/

section Kinds

variable {x y : Float}

/-- A number that is not finite is infinite or undefined. -/
theorem isFinite_eq_false_iff : x.isFinite = false ↔ x.isInf = true ∨ x.isNaN = true := by
  show x.toModel.unpack.isFinite = false ↔
    x.toModel.unpack.isInf = true ∨ x.toModel.unpack.isNaN = true
  cases x.toModel.unpack <;>
    simp [UnpackedFloat.isFinite, UnpackedFloat.isInf, UnpackedFloat.isNaN]

/-- A number that is not infinite is finite or undefined. -/
theorem isInf_eq_false_iff : x.isInf = false ↔ x.isFinite = true ∨ x.isNaN = true := by
  show x.toModel.unpack.isInf = false ↔
    x.toModel.unpack.isFinite = true ∨ x.toModel.unpack.isNaN = true
  cases x.toModel.unpack <;>
    simp [UnpackedFloat.isFinite, UnpackedFloat.isInf, UnpackedFloat.isNaN]

/-- A number differs from itself if and only if it is undefined. -/
theorem undefined_eq_isNaN (x : Float) : Quantity.undefined x = x.isNaN := by
  show (!(x == x)) = x.isNaN
  rw [Bool.eq_iff_iff, Bool.not_eq_true', Float.beq_self_eq_false_iff,
    Float.isNaN_eq_decide_eq_nan, decide_eq_true_iff]

/-- No number equals an undefined one. -/
theorem equal_eq_false_of_isNaN (hy : y.isNaN = true) : Quantity.equal x y = false := by
  rw [Float.isNaN_eq_decide_eq_nan, decide_eq_true_iff] at hy
  rw [hy]
  exact Float.beq_nan_eq_false x

end Kinds

end MetricQuery
