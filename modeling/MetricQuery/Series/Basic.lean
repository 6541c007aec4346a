/-
  MetricQuery.Series.Basic
  ────────────────────────
  **SPARSE TIME SERIES.**

  A series maps instants to values, each instant at most once, and lists its
  points in ascending order of time.  Two series are equal when they hold the
  same value at every instant.

    • `Series.extend`, `Series.ofPoints` — points in any order, later ones winning,
    • `Series.tabulate`   — one value for each of a list of keys,
    • `Series.onto`       — a series on a grid, padding where it has no value,
    • `Series.present`    — the values that are not missing,
    • `getElem?_extend`, `getElem?_tabulate`, `getElem?_onto` — what each holds where.
-/
import Std.Data.ExtTreeMap
import MetricQuery.Quantity

namespace MetricQuery

/-- A sparse time series: seconds of universal time to values. -/
abbrev Series (α : Type) : Type :=
  Std.ExtTreeMap Int α

namespace Series

variable {α β : Type}

/-! ## §1. Building. -/

/-- The series with further points.  A point replaces an earlier one at the same instant. -/
def extend (s : Series α) (points : List (Int × α)) : Series α :=
  points.foldl (fun s p => s.insert p.1 p.2) s

/-- The series of a list of points. -/
def ofPoints (points : List (Int × α)) : Series α :=
  extend ∅ points

/-- The series with these keys and the value of `f` at each. -/
def tabulate (keys : List Int) (f : Int → α) : Series α :=
  keys.foldl (fun s k => s.insert k (f k)) ∅

theorem extend_cons (s : Series α) (p : Int × α) (points : List (Int × α)) :
    s.extend (p :: points) = Series.extend (s.insert p.1 p.2) points := rfl

/-- The value of the last of the points at `k`. -/
def lastAt (points : List (Int × α)) (k : Int) : Option α :=
  (points.reverse.find? fun p => p.1 == k).map Prod.snd

/-- **The last point at an instant wins;** other instants keep what they held. -/
theorem getElem?_extend (s : Series α) (points : List (Int × α)) (k : Int) :
    (s.extend points)[k]? = (lastAt points k).or s[k]? := by
  induction points generalizing s with
  | nil => rfl
  | cons p points ih =>
      rw [extend_cons, ih, Std.ExtTreeMap.getElem?_insert]
      simp only [lastAt, List.reverse_cons, List.find?_append]
      cases List.find? (fun p => p.1 == k) points.reverse with
      | some q => simp
      | none => by_cases h : p.1 = k <;> simp [h]

theorem getElem?_ofPoints (points : List (Int × α)) (k : Int) :
    (ofPoints points)[k]? = lastAt points k := by
  simp [ofPoints, getElem?_extend]

/-- Where no instant has two values, the last value at an instant is any of them. -/
theorem lastAt_eq_some_iff {points : List (Int × α)} {t : Int} {v : α}
    (h : ∀ w, (t, w) ∈ points → (t, v) ∈ points → w = v) :
    lastAt points t = some v ↔ (t, v) ∈ points := by
  rw [lastAt, Option.map_eq_some_iff]
  constructor
  · rintro ⟨p, hf, rfl⟩
    have hm := List.mem_of_find?_eq_some hf
    have ht : p.1 = t := by simpa using List.find?_some hf
    rw [← ht]
    exact List.mem_reverse.1 hm
  · intro hm
    have hsome : (points.reverse.find? fun p => p.1 == t).isSome = true :=
      List.find?_isSome.2 ⟨(t, v), List.mem_reverse.2 hm, beq_self_eq_true t⟩
    obtain ⟨p, hf⟩ := Option.isSome_iff_exists.1 hsome
    have hp := List.mem_reverse.1 (List.mem_of_find?_eq_some hf)
    have ht : p.1 = t := by simpa using List.find?_some hf
    obtain ⟨u, w⟩ := p
    cases ht
    exact ⟨(u, w), hf, h w hp hm⟩

/-- **A tabulated series has exactly its keys.** -/
theorem getElem?_tabulate (keys : List Int) (f : Int → α) (k : Int) :
    (tabulate keys f)[k]? = if k ∈ keys then some (f k) else none := by
  suffices h : ∀ s : Series α,
      (keys.foldl (fun s k => s.insert k (f k)) s)[k]? =
        if k ∈ keys then some (f k) else s[k]? by
    simpa [tabulate] using h ∅
  induction keys with
  | nil => intro s; rfl
  | cons x keys ih =>
      intro s
      rw [List.foldl_cons, ih, Std.ExtTreeMap.getElem?_insert]
      by_cases hk : k ∈ keys
      · simp [hk]
      · by_cases hx : x = k
        · simp [hk, hx]
        · simp [hk, hx, Ne.symm hx]

/-! ## §2. The points of a series. -/

/-- Every point, ascending. -/
def points (s : Series α) : List (Int × α) :=
  s.toList

/-- The first and the last instant. -/
def span (s : Series α) : Option (Int × Int) :=
  match s.minKey?, s.maxKey? with
  | some first, some last => some (first, last)
  | _, _ => none

/-- The values that are not missing, ascending in time. -/
def present [Quantity α] (s : Series α) (pad : Padding α) : List α :=
  s.values.filter fun v => !pad.marks v

/-- The points whose value is not missing, ascending. -/
def presentPoints [Quantity α] (s : Series α) (pad : Padding α) : List (Int × α) :=
  s.points.filter fun p => !pad.marks p.2

/-- Same keys, and at each of them values that compare equal. -/
def same [Quantity α] (s t : Series α) : Bool :=
  s.size == t.size &&
    (s.points.zip t.points).all fun (p, q) => p.1 == q.1 && Quantity.equal p.2 q.2

/-! ## §3. Reshaping. -/

/-- The same keys, each with the value `v`. -/
def broadcast (s : Series α) (v : β) : Series β :=
  s.map fun _ _ => v

/-- **The series on a grid:** exactly the keys of the grid, with the value of the series or the
padding. -/
def onto (s : Series α) (grid : List Int) (pad : Padding α) : Series α :=
  tabulate grid fun k => s[k]?.getD pad.value

theorem getElem?_broadcast (s : Series α) (v : β) (k : Int) :
    (s.broadcast v)[k]? = s[k]?.map fun _ => v := by
  simp [broadcast]

theorem getElem?_onto (s : Series α) (grid : List Int) (pad : Padding α) (k : Int) :
    (s.onto grid pad)[k]? = if k ∈ grid then some (s[k]?.getD pad.value) else none :=
  getElem?_tabulate grid _ k

end Series
end MetricQuery
