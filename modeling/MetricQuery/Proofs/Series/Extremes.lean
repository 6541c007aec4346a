/-
  MetricQuery.Proofs.Series.Extremes
  ──────────────────────────────────
  **EXTREMES WITH UNDEFINED VALUES AMONG THEM.**

  A running extreme starts from the first value and gives way only to a value
  that beats it.  An undefined value beats nothing and is beaten by nothing.  If
  it comes first it stays to the end, and anywhere else it is passed over.  The
  order of several series therefore matters where some of them present a number
  and some an undefined value, and nowhere else.

    • `Aggregation.beats`       — the comparison that an extreme goes by,
    • `Aggregation.Extreme`     — a number among the values that none of them beats,
    • `Extreme.merge`           — one more value,
    • `extreme_foldl_merge`     — all values, from a number on,
    • `Aggregation.Finds`       — what an extreme comes to,
    • `Unmixed`                 — only numbers, or nothing but undefined values,
    • `Unmixed.alike`           — the order of such values does not matter,
    • `Series.AlikeAt`          — series that hold alike values at an instant,
    • `unmixed_of_forall_perm`  — and where it does not matter, they are not mixed,
    • `combine_extremes`        — **several series, and when their order matters.**
-/
import Mathlib.Data.List.Induction
import MetricQuery.Proofs.Floating
import MetricQuery.Proofs.Series.Groups

namespace MetricQuery

section Extremes

variable {α ι : Type} [Quantity α] [LinearOrder ι] {place : α → Option ι} {agg : Aggregation}
  {x y z : α} {vs ws : List α}

/-! ## §1. What beats what. -/

/-- The first value takes the place of the second one, which is held. -/
def Aggregation.beats (agg : Aggregation) (v held : α) : Bool :=
  match agg with
  | .max => Quantity.less held v
  | .min => Quantity.less v held
  | .sum | .avg => false

theorem merge_eq_ite (hagg : agg = .max ∨ agg = .min) (held v : α) :
    Tally.merge agg held v = if agg.beats v held = true then v else held := by
  rcases hagg with rfl | rfl <;> rfl

namespace Places

theorem defined_of_beats (h : Places place) (hxy : agg.beats x y = true) :
    Quantity.undefined x = false ∧ Quantity.undefined y = false := by
  cases agg with
  | max => exact (h.defined_of_less hxy).symm
  | min => exact h.defined_of_less hxy
  | sum | avg => cases hxy

theorem beats_irrefl (h : Places place) (agg : Aggregation) (x : α) : agg.beats x x = false := by
  cases agg with
  | max | min => exact h.less_irrefl x
  | sum | avg => rfl

theorem beats_trans (h : Places place) (hxy : agg.beats x y = true) (hyz : agg.beats y z = true) :
    agg.beats x z = true := by
  cases agg with
  | max => exact h.less_trans (x := z) hyz hxy
  | min => exact h.less_trans (x := x) hxy hyz
  | sum | avg => cases hxy

/-- Two numbers of which neither beats the other are alike. -/
theorem alike_of_not_beats (h : Places place) (hagg : agg = .max ∨ agg = .min)
    (hx : Quantity.undefined x = false) (hy : Quantity.undefined y = false)
    (hxy : agg.beats x y = false) (hyx : agg.beats y x = false) : Quantity.Alike x y := by
  rcases hagg with rfl | rfl
  · exact h.alike_of_not_less hx hy hyx hxy
  · exact h.alike_of_not_less hx hy hxy hyx

end Places

/-! ## §2. A running extreme. -/

/-- **A number among the values that none of them beats.** -/
structure Aggregation.Extreme (agg : Aggregation) (vs : List α) (y : α) : Prop where
  mem : y ∈ vs
  defined : Quantity.undefined y = false
  unbeaten : ∀ v ∈ vs, agg.beats v y = false

/-- **One more value:** what is held then is the extreme of one value more. -/
theorem Aggregation.Extreme.merge (h : Places place) (hagg : agg = .max ∨ agg = .min) {held : α}
    (hbest : agg.Extreme vs held) (v : α) : agg.Extreme (vs ++ [v]) (Tally.merge agg held v) := by
  rw [merge_eq_ite hagg]
  by_cases hv : agg.beats v held = true
  · rw [if_pos hv]
    refine ⟨by simp, (h.defined_of_beats hv).1, ?_⟩
    intro u hu
    rw [Bool.eq_false_iff]
    intro huv
    rcases List.mem_append.1 hu with hu | hu
    · -- What beats the new value beats the old one, which nothing did.
      have hheld := h.beats_trans huv hv
      rw [hbest.unbeaten u hu] at hheld
      cases hheld
    · rw [List.mem_singleton.1 hu, h.beats_irrefl] at huv
      cases huv
  · rw [if_neg hv]
    refine ⟨List.mem_append_left _ hbest.mem, hbest.defined, ?_⟩
    intro u hu
    rcases List.mem_append.1 hu with hu | hu
    · exact hbest.unbeaten u hu
    · rw [List.mem_singleton.1 hu]
      exact Bool.eq_false_iff.2 hv

/-- **From a number on** the extreme of all values is found. -/
theorem extreme_foldl_merge (h : Places place) (hagg : agg = .max ∨ agg = .min)
    (hx : Quantity.undefined x = false) (xs : List α) :
    agg.Extreme (x :: xs) (xs.foldl (Tally.merge agg) x) := by
  -- What is held grows out of what was held before the last value, so the last one is split off.
  induction xs using List.reverseRecOn with
  | nil =>
      refine ⟨List.mem_singleton_self x, hx, ?_⟩
      intro v hv
      rw [List.mem_singleton.1 hv]
      exact h.beats_irrefl agg x
  | append_singleton xs v ih =>
      rw [List.foldl_append]
      exact ih.merge h hagg v

/-- **From an undefined value on** nothing takes its place. -/
theorem foldl_merge_of_undefined (h : Places place) (hagg : agg = .max ∨ agg = .min)
    (hx : Quantity.undefined x = true) (xs : List α) : xs.foldl (Tally.merge agg) x = x := by
  induction xs with
  | nil => rfl
  | cons v xs ih =>
      have hv : ¬agg.beats v x = true := by
        intro hv
        rw [(h.defined_of_beats hv).2] at hx
        cases hx
      rw [List.foldl_cons, merge_eq_ite hagg, if_neg hv, ih]

/-! ## §3. What an extreme comes to. -/

/-- What an extreme comes to: the first value if that is undefined, and otherwise the extreme of
the numbers. -/
def Aggregation.Finds (agg : Aggregation) (vs : List α) (y : α) : Prop :=
  vs.head? = some y ∧ Quantity.undefined y = true ∨
    (∃ v, vs.head? = some v ∧ Quantity.undefined v = false) ∧ agg.Extreme vs y

/-- **A reduction to an extreme finds it.** -/
theorem finds_of_reduce (h : Places place) (hagg : agg = .max ∨ agg = .min)
    (hy : agg.reduce vs = some y) : agg.Finds vs y := by
  have havg : agg ≠ .avg := by
    rintro rfl
    rcases hagg with h | h <;> cases h
  cases vs with
  | nil => cases hy
  | cons x xs =>
      rw [Aggregation.reduce_cons_of_ne_avg havg, Option.some.injEq] at hy
      cases hx : Quantity.undefined x with
      | true =>
          rw [foldl_merge_of_undefined h hagg hx] at hy
          cases hy
          exact Or.inl ⟨rfl, hx⟩
      | false =>
          rw [← hy]
          exact Or.inr ⟨⟨x, rfl, hx⟩, extreme_foldl_merge h hagg hx xs⟩

theorem Aggregation.Finds.mem (hy : agg.Finds vs y) : y ∈ vs := by
  rcases hy with ⟨hhead, -⟩ | ⟨-, hextreme⟩
  · exact List.mem_of_mem_head? hhead
  · exact hextreme.mem

theorem Aggregation.Finds.extreme (hy : agg.Finds vs y) (hdefined : Quantity.undefined y = false) :
    agg.Extreme vs y := by
  rcases hy with ⟨-, hundefined⟩ | ⟨-, hextreme⟩
  · rw [hdefined] at hundefined
    cases hundefined
  · exact hextreme

/-- The first value decides whether a number is found. -/
theorem Aggregation.Finds.undefined_eq (hy : agg.Finds vs y) (hx : vs.head? = some x) :
    Quantity.undefined y = Quantity.undefined x := by
  rcases hy with ⟨hhead, -⟩ | ⟨⟨v, hhead, hv⟩, hextreme⟩
  · rw [hx, Option.some.injEq] at hhead
    rw [hhead]
  · rw [hx, Option.some.injEq] at hhead
    rw [hhead, hv, hextreme.defined]

/-- Extremes of the same values are alike. -/
theorem Aggregation.Extreme.alike (h : Places place) (hagg : agg = .max ∨ agg = .min)
    (hy : agg.Extreme vs y) (hz : agg.Extreme ws z) (hmem : ∀ v, v ∈ vs ↔ v ∈ ws) :
    Quantity.Alike y z :=
  h.alike_of_not_beats hagg hy.defined hz.defined (hz.unbeaten y ((hmem y).1 hy.mem))
    (hy.unbeaten z ((hmem z).2 hz.mem))

/-- All of the values are numbers, or none is. -/
def Unmixed (vs : List α) : Prop :=
  (∀ v ∈ vs, Quantity.undefined v = true) ∨ ∀ v ∈ vs, Quantity.undefined v = false

/-- **The order of values does not matter if numbers and undefined values are not mixed.** -/
theorem Unmixed.alike (h : Places place) (hagg : agg = .max ∨ agg = .min) (hvs : Unmixed vs)
    (hperm : vs.Perm ws) : Option.Rel Quantity.Alike (agg.reduce vs) (agg.reduce ws) := by
  cases hy : agg.reduce vs with
  | none =>
      obtain rfl := Aggregation.reduce_eq_none_iff.1 hy
      rw [hperm.nil_eq.symm, Aggregation.reduce_nil]
      exact .none
  | some y =>
      cases hz : agg.reduce ws with
      | none =>
          obtain rfl := Aggregation.reduce_eq_none_iff.1 hz
          rw [hperm.eq_nil] at hy
          cases hy
      | some z =>
          have hfound := finds_of_reduce h hagg hy
          have hfound' := finds_of_reduce h hagg hz
          have hzmem := hperm.mem_iff.2 hfound'.mem
          refine .some ?_
          -- Undefined values are all alike, and numbers have one extreme in any order.
          rcases hvs with hall | hall
          · exact Or.inr ⟨hall y hfound.mem, hall z hzmem⟩
          · exact (hfound.extreme (hall y hfound.mem)).alike h hagg
              (hfound'.extreme (hall z hzmem)) fun v => hperm.mem_iff

/-! ## §4. Several series. -/

namespace Series

variable {pad : Padding α} {list : List (Series α)} {k : Int}

/-- Both series hold values at the instant and the values are alike, or neither holds one. -/
def AlikeAt (k : Int) (s s' : Series α) : Prop :=
  Option.Rel Quantity.Alike s[k]? s'[k]?

/-- A value that is presented at an instant comes first in some order of the series. -/
theorem exists_perm_head (hx : x ∈ valuesAt pad list k) :
    ∃ list', list.Perm list' ∧ (valuesAt pad list' k).head? = some x := by
  obtain ⟨s, hs, hkeep⟩ := mem_valuesAt.1 hx
  obtain ⟨before, after, rfl⟩ := List.append_of_mem hs
  refine ⟨s :: (before ++ after), List.perm_middle, ?_⟩
  rw [valuesAt, List.filterMap_cons, hkeep]
  rfl

/-- What a combination with an extreme holds at an instant. -/
theorem finds_of_combine (h : Places place) (hagg : agg = .max ∨ agg = .min)
    (hy : (combine agg pad list)[k]? = some y) : agg.Finds (valuesAt pad list k) y := by
  rw [getElem?_combine] at hy
  exact finds_of_reduce h hagg hy

theorem valuesAt_eq_nil_of_combine (hnone : (combine agg pad list)[k]? = none) :
    valuesAt pad list k = [] := by
  rw [getElem?_combine] at hnone
  exact Aggregation.reduce_eq_none_iff.1 hnone

/-- Orders that all lead to the same have only numbers to order, or none. -/
theorem unmixed_of_forall_perm (h : Places place) (hagg : agg = .max ∨ agg = .min)
    (hall : ∀ list', list.Perm list' → AlikeAt k (combine agg pad list) (combine agg pad list')) :
    Unmixed (valuesAt pad list k) := by
  cases hy : (combine agg pad list)[k]? with
  | none =>
      rw [valuesAt_eq_nil_of_combine hy]
      exact Or.inl (List.forall_mem_nil _)
  | some y =>
      -- Any value can come first and decide, so all of them are of the kind of what is found.
      have hkind : ∀ v ∈ valuesAt pad list k, Quantity.undefined v = Quantity.undefined y := by
        intro v hv
        obtain ⟨list', hperm, hhead⟩ := exists_perm_head hv
        have hrel := hall list' hperm
        rw [AlikeAt, hy] at hrel
        cases hz : (combine agg pad list')[k]? with
        | none =>
            rw [hz] at hrel
            cases hrel
        | some z =>
            rw [hz, Option.rel_some_some] at hrel
            rw [h.undefined_eq hrel, (finds_of_combine h hagg hz).undefined_eq hhead]
      cases hundefined : Quantity.undefined y with
      | true => exact Or.inl fun v hv => (hkind v hv).trans hundefined
      | false => exact Or.inr fun v hv => (hkind v hv).trans hundefined

/-- Nothing undefined is presented next to an undefined padding. -/
theorem unmixed_of_undefined (hpad : Quantity.undefined pad.value = true) :
    Unmixed (valuesAt pad list k) := by
  refine Or.inr fun v hv => ?_
  obtain ⟨s, -, hkeep⟩ := mem_valuesAt.1 hv
  have hmarks := (Padding.keep_eq_some_iff.1 hkeep).2
  rw [Bool.eq_false_iff] at hmarks ⊢
  exact fun hundefined => hmarks (Padding.marks_iff.2 (Or.inr ⟨hundefined, hpad⟩))

end Series

end Extremes

/-- **An extreme over several series of floating-point numbers, and when their order matters.**  In
every order of the series the combination has the same instants.  At one of them it is the same in
every order, the undefined number taken to equal itself, if and only if the values that are not
missing there are all numbers or all undefined.  What it holds is the first of these values if that
is undefined, and otherwise the number among them that none of them beats.  If the padding is
undefined, the order does not matter at all. -/
theorem combine_extremes {agg : Aggregation} (hagg : agg = .max ∨ agg = .min) (pad : Padding Float)
    (list : List (Series Float)) :
    (∀ list', list.Perm list' →
      ∀ k, k ∈ Series.combine agg pad list' ↔ k ∈ Series.combine agg pad list) ∧
    (∀ k, (∀ list', list.Perm list' →
        Series.AlikeAt k (Series.combine agg pad list) (Series.combine agg pad list')) ↔
      Unmixed (Series.valuesAt pad list k)) ∧
    (∀ (k : Int) y, (Series.combine agg pad list)[k]? = some y →
      agg.Finds (Series.valuesAt pad list k) y) ∧
    (Quantity.undefined pad.value = true → ∀ list', list.Perm list' →
      ∀ k, Series.AlikeAt k (Series.combine agg pad list) (Series.combine agg pad list')) := by
  have hunmixed : ∀ k list', Unmixed (Series.valuesAt pad list k) → list.Perm list' →
      Series.AlikeAt k (Series.combine agg pad list) (Series.combine agg pad list') := by
    intro k list' hvalues hperm
    rw [Series.AlikeAt, Series.getElem?_combine, Series.getElem?_combine]
    exact hvalues.alike places_float hagg (hperm.filterMap _)
  refine ⟨?_, ?_, ?_, ?_⟩
  · intro list' hperm k
    simp only [Series.mem_combine_iff, hperm.mem_iff]
  · intro k
    exact ⟨Series.unmixed_of_forall_perm places_float hagg,
      fun hvalues list' => hunmixed k list' hvalues⟩
  · intro k y
    exact Series.finds_of_combine places_float hagg
  · intro hpad list' hperm k
    exact hunmixed k list' (Series.unmixed_of_undefined hpad) hperm

/-- Two series that present zeros of both signs at one instant and the undefined number at the
next. -/
def zerosAndUndefined : List (Series Float) :=
  [Series.ofPoints [(0, 0.0), (60, 0.0 / 0.0)], Series.ofPoints [(0, -0.0), (60, 0.0 / 0.0)]]

/-- The two zeros are equal, and the undefined number is taken to equal itself, so that the greatest
values are the same from last to first. -/
theorem combine_extremes_zeros :
    Series.AlikeAt 0 (Series.combine .max ⟨-1.0⟩ zerosAndUndefined)
        (Series.combine .max ⟨-1.0⟩ zerosAndUndefined.reverse) ∧
      Series.AlikeAt 60 (Series.combine .max ⟨-1.0⟩ zerosAndUndefined)
        (Series.combine .max ⟨-1.0⟩ zerosAndUndefined.reverse) := by
  obtain ⟨-, horder, -⟩ := combine_extremes (Or.inl rfl) ⟨-1.0⟩ zerosAndUndefined
  have hperm := (List.reverse_perm zerosAndUndefined).symm
  refine ⟨(horder 0).2 (Or.inr ?_) _ hperm, (horder 60).2 (Or.inl ?_) _ hperm⟩
  · decide +kernel
  · decide +kernel

/-- A series that is undefined at an instant, and one that holds a number there. -/
def undefinedAndOne : List (Series Float) :=
  [Series.ofPoints [(0, 0.0 / 0.0)], Series.ofPoints [(0, 1.0)]]

/-- The greatest value of the two is undefined in one order and a number in the other. -/
theorem combine_max_undefined_first :
    ¬Series.AlikeAt 0 (Series.combine .max ⟨0.0⟩ undefinedAndOne)
      (Series.combine .max ⟨0.0⟩ undefinedAndOne.reverse) := by
  have hfirst : (Series.combine .max ⟨0.0⟩ undefinedAndOne)[(0 : Int)]?.map Quantity.undefined =
      some true := by
    decide +kernel
  have hsecond : (Series.combine .max ⟨0.0⟩ undefinedAndOne.reverse)[(0 : Int)]?.map
      Quantity.undefined = some false := by
    decide +kernel
  obtain ⟨y, hy, hundefined⟩ := Option.map_eq_some_iff.1 hfirst
  obtain ⟨z, hz, hdefined⟩ := Option.map_eq_some_iff.1 hsecond
  rw [Series.AlikeAt, hy, hz, Option.rel_some_some]
  intro halike
  rw [places_float.undefined_eq halike, hdefined] at hundefined
  cases hundefined

end MetricQuery
