/-
  MetricQuery.Proofs.Partition
  ────────────────────────────
  **CUTTING UP BY KEYS.**

  A list is cut up by a function that gives each element a key.  If the keys are
  distinct and leave no element out, the parts hold every element once.  So the
  sizes of the parts add up, and the first of their first elements is the first
  of all.

    • `perm_flatMap_filter`  — what distinct keys cut up is all still there,
    • `sum_length_filter`    — the sizes of the parts add up,
    • `isLeast_of_parts`, `isGreatest_of_parts` — the extremes of the parts.
-/
import Mathlib.Algebra.GroupWithZero.Nat
import Mathlib.Order.Bounds.Basic
import Mathlib.Data.List.Perm.Basic

namespace MetricQuery

/-! ## §1. Parts of a list. -/

/-- **Cut up by distinct keys that leave none of them out,** the elements of a list are all still
there, each once. -/
theorem perm_flatMap_filter {α κ : Type} [DecidableEq κ] {f : α → κ} {keys : List κ}
    (hnodup : keys.Nodup) {xs : List α} (hcover : ∀ x ∈ xs, f x ∈ keys) :
    (keys.flatMap fun k => xs.filter fun x => f x == k).Perm xs := by
  -- The first key takes its elements out, and the others cut up what is left.
  induction keys generalizing xs with
  | nil =>
      rw [List.eq_nil_iff_forall_not_mem.2 fun x hx => List.not_mem_nil (hcover x hx)]
      exact List.Perm.refl []
  | cons k keys ih =>
      obtain ⟨hk, hkeys⟩ := List.nodup_cons.1 hnodup
      have hrest :
          (keys.flatMap fun l => (xs.filter fun x => !(f x == k)).filter fun x => f x == l) =
            keys.flatMap fun l => xs.filter fun x => f x == l := by
        refine List.flatMap_congr ?_
        intro l hl
        rw [List.filter_filter]
        refine List.filter_congr ?_
        intro x _
        have hne : l ≠ k := fun heq => hk (heq ▸ hl)
        by_cases hx : f x = l <;> simp [hx, hne]
      have hleft : ∀ x ∈ xs.filter fun x => !(f x == k), f x ∈ keys := by
        intro x hx
        obtain ⟨hmem, hne⟩ := List.mem_filter.1 hx
        exact (List.mem_cons.1 (hcover x hmem)).resolve_left (by simpa using hne)
      have hcut := ih hkeys hleft
      rw [hrest] at hcut
      rw [List.flatMap_cons]
      exact (hcut.append_left _).trans (List.filter_append_perm _ xs)

/-- **The sizes of the parts add up** to the size of the whole. -/
theorem sum_length_filter {α κ : Type} [DecidableEq κ] {f : α → κ} {keys : List κ}
    (hnodup : keys.Nodup) {xs : List α} (hcover : ∀ x ∈ xs, f x ∈ keys) :
    (keys.map fun k => (xs.filter fun x => f x == k).length).sum = xs.length := by
  rw [← (perm_flatMap_filter hnodup hcover).length_eq, List.length_flatMap]

/-! ## §2. Extremes of parts. -/

/-- **The least element of a whole is the least of the least elements of its parts.** -/
theorem isLeast_of_parts {ι β : Type} [PartialOrder β] {indices : Set ι} {part : ι → Set β}
    {least : ι → β} {whole : Set β} {x : β} (hpart : ∀ i ∈ indices, IsLeast (part i) (least i))
    (hsub : ∀ i ∈ indices, part i ⊆ whole) (hcover : ∀ y ∈ whole, ∃ i ∈ indices, y ∈ part i)
    (hx : IsLeast whole x) : IsLeast (least '' indices) x := by
  constructor
  · -- The part that holds the least element has it as its own.
    obtain ⟨i, hi, hmem⟩ := hcover x hx.1
    have hle := (hpart i hi).2 hmem
    have hge := hx.2 (hsub i hi (hpart i hi).1)
    exact ⟨i, hi, le_antisymm hle hge⟩
  · intro y hy
    obtain ⟨i, hi, heq⟩ := hy
    rw [← heq]
    exact hx.2 (hsub i hi (hpart i hi).1)

/-- **The greatest element of a whole is the greatest of the greatest elements of its parts.** -/
theorem isGreatest_of_parts {ι β : Type} [PartialOrder β] {indices : Set ι} {part : ι → Set β}
    {greatest : ι → β} {whole : Set β} {x : β}
    (hpart : ∀ i ∈ indices, IsGreatest (part i) (greatest i))
    (hsub : ∀ i ∈ indices, part i ⊆ whole) (hcover : ∀ y ∈ whole, ∃ i ∈ indices, y ∈ part i)
    (hx : IsGreatest whole x) : IsGreatest (greatest '' indices) x :=
  isLeast_of_parts (β := βᵒᵈ) hpart hsub hcover hx

end MetricQuery
