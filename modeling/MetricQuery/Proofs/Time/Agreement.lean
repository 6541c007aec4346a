/-
  MetricQuery.Proofs.Time.Agreement
  ─────────────────────────────────
  **WHEN THE WALK MEETS EVERY KEY.**

  A rollup puts a value under the key of its bucket; a grid is walked by hops
  from key to key.  The two agree on a stretch of time if and only if the walk
  starts at the first key from the start on and every hop leads to the first
  key after the one it leaves.

    • `IsKey`          — the instants that are the key of some bucket,
    • `Lands`          — a step of the walk leads to the first key from an instant on,
    • `GridsAgree`     — every grid within the stretch lists exactly the keys,
    • `gridsAgree_iff` — the condition on single steps,
    • `GridsAgree.getElem?_onto` — no value of a rollup is lost on the grid.
-/
import Mathlib.Data.Int.LeastGreatest
import Mathlib.Order.Bounds.Basic
import MetricQuery.Proofs.Time.Grid
import MetricQuery.Series.Reduce

namespace MetricQuery

/-! ## §1. Keys and grids. -/

/-- The instant is the key of the bucket of some instant. -/
def IsKey (clock : Clock) (r : Resolution) (k : Int) : Prop :=
  ∃ t, bucketKey clock r t = k

/-- The first key from an instant on. -/
def IsFirstKey (clock : Clock) (r : Resolution) (since k : Int) : Prop :=
  IsLeast {x | since ≤ x ∧ IsKey clock r x} k

/-- As far as can be told before `hi`, `n` is the first key from `since` on. -/
def Lands (clock : Clock) (r : Resolution) (hi since n : Int) : Prop :=
  ∀ k, k < hi → (n = k ↔ IsFirstKey clock r since k)

/-- Every grid within `[lo, hi)` ascends and lists exactly the keys of its range. -/
def GridsAgree (clock : Clock) (r : Resolution) (lo hi : Int) : Prop :=
  ∀ start stop, lo ≤ start → start < stop → stop ≤ hi →
    (bucketKeys clock r start stop).Pairwise (· < ·) ∧
      ∀ k, k ∈ bucketKeys clock r start stop ↔ start ≤ k ∧ k < stop ∧ IsKey clock r k

/-- Every step of a walk within `[lo, hi)` lands: the one that enters a range, and each hop from
a key. -/
structure StepsLand (clock : Clock) (r : Resolution) (lo hi : Int) : Prop where
  enter : ∀ t, lo ≤ t → t < hi → Lands clock r hi t (firstKey clock r t)
  hop : ∀ k, IsKey clock r k → lo ≤ k → k < hi →
    Lands clock r hi (k + 1) (nextBucketKey clock r k)

/-! ## §2. Walks that land. -/

section Walk

variable {clock : Clock} {r : Resolution} {lo hi : Int}

theorem IsFirstKey.eq {since k l : Int} (hk : IsFirstKey clock r since k)
    (hl : IsFirstKey clock r since l) : k = l :=
  IsLeast.unique hk hl

theorem IsFirstKey.lands {since n : Int} (h : IsFirstKey clock r since n) :
    Lands clock r hi since n := by
  intro k _
  constructor
  · rintro rfl
    exact h
  · intro hk
    exact h.eq hk

/-- Where there is a key from an instant on, there is a first one. -/
theorem exists_isFirstKey {since k : Int} (hle : since ≤ k) (hk : IsKey clock r k) :
    ∃ n, IsFirstKey clock r since n ∧ n ≤ k := by
  obtain ⟨n, hn, hleast⟩ := Int.exists_least_of_bdd (P := fun x => since ≤ x ∧ IsKey clock r x)
    ⟨since, fun x hx => hx.1⟩ ⟨k, hle, hk⟩
  exact ⟨n, ⟨hn, fun x hx => hleast x hx⟩, hleast k ⟨hle, hk⟩⟩

/-- A step that lands meets the first key. -/
theorem Lands.meets {stop since n : Int} (h : Lands clock r hi since n) (hstop : stop ≤ hi) :
    Meets (IsKey clock r) stop since n where
  hit hlt := ((h n (by omega)).1 rfl).1
  le x hx hlt hkey := by
    obtain ⟨m, hm, hmx⟩ := exists_isFirstKey hx hkey
    have hmn : n = m := (h m (by omega)).2 hm
    omega

/-- **A walk that lands lists the keys from where it begins.** -/
theorem mem_bucketKeysFrom_iff {stop n : Int} (hstop : stop ≤ hi)
    (hop : ∀ k, IsKey clock r k → lo ≤ k → k < hi →
      Lands clock r hi (k + 1) (nextBucketKey clock r k))
    {since : Int} (hlo : lo ≤ since) (hn : Lands clock r hi since n) (k : Int) :
    k ∈ bucketKeysFrom clock r stop n ↔ since ≤ k ∧ k < stop ∧ IsKey clock r k := by
  refine mem_bucketKeysFrom_iff_of_meets ?_ (hn.meets hstop) k
  intro x hx hlt hkey
  exact (hop x hkey (by omega) (by omega)).meets hstop

/-- A walk that lists the keys from an instant on begins at the first of them. -/
theorem lands_of_mem_bucketKeysFrom_iff {since n : Int}
    (h : ∀ k, k ∈ bucketKeysFrom clock r hi n ↔ since ≤ k ∧ k < hi ∧ IsKey clock r k) :
    Lands clock r hi since n := by
  -- The walk lists where it begins, if that is before the end at all.
  have hhead : n < hi → since ≤ n ∧ n < hi ∧ IsKey clock r n := by
    intro hlt
    refine (h n).1 ?_
    rw [bucketKeysFrom_of_lt hlt]
    exact List.mem_cons_self
  intro k hk
  constructor
  · rintro rfl
    obtain ⟨hsince, -, hkey⟩ := hhead hk
    refine ⟨⟨hsince, hkey⟩, ?_⟩
    rintro x ⟨hsx, hx⟩
    by_cases hxhi : x < hi
    · exact le_of_mem_bucketKeysFrom ((h x).2 ⟨hsx, hxhi, hx⟩)
    · omega
  · rintro ⟨⟨hsince, hkey⟩, hleast⟩
    have hle : n ≤ k := le_of_mem_bucketKeysFrom ((h k).2 ⟨hsince, hk, hkey⟩)
    obtain ⟨hsn, -, hn⟩ := hhead (by omega)
    have hge : k ≤ n := hleast ⟨hsn, hn⟩
    omega

/-- **Grids agree with the keys if and only if every step of the walk lands.** -/
theorem gridsAgree_iff : GridsAgree clock r lo hi ↔ StepsLand clock r lo hi := by
  constructor
  · intro h
    have enter : ∀ t, lo ≤ t → t < hi → Lands clock r hi t (firstKey clock r t) := by
      intro t hlo hhi
      refine lands_of_mem_bucketKeysFrom_iff ?_
      rw [← bucketKeys_eq]
      exact (h t hi hlo hhi (Int.le_refl hi)).2
    refine ⟨enter, ?_⟩
    intro k hkey hlo hhi
    have hkeys := (h k hi hlo hhi (Int.le_refl hi)).2
    -- A range that starts at a key is entered there.
    have hself : firstKey clock r k = k :=
      (enter k hlo hhi k hhi).2 ⟨⟨Int.le_refl k, hkey⟩, fun x hx => hx.1⟩
    -- What is listed after the start is the walk from the hop.
    rw [bucketKeys_eq, hself, bucketKeysFrom_of_lt hhi] at hkeys
    refine lands_of_mem_bucketKeysFrom_iff ?_
    intro x
    constructor
    · intro hx
      obtain ⟨-, hxhi, hxkey⟩ := (hkeys x).1 (List.mem_cons_of_mem k hx)
      have hlt := key_lt_nextBucketKey clock r k
      have hle := le_of_mem_bucketKeysFrom hx
      exact ⟨by omega, hxhi, hxkey⟩
    · rintro ⟨hkx, hxhi, hxkey⟩
      have hmem := (hkeys x).2 ⟨by omega, hxhi, hxkey⟩
      rcases List.mem_cons.1 hmem with rfl | hmem
      · omega
      · exact hmem
  · intro h start stop hlo hlt hhi
    refine ⟨pairwise_bucketKeys clock r start stop, ?_⟩
    rw [bucketKeys_eq]
    exact mem_bucketKeysFrom_iff hhi h.hop hlo (h.enter start hlo (by omega))

end Walk

/-! ## §3. Values under keys. -/

/-- A rollup has values under keys only. -/
theorem isKey_of_getElem?_rollup {α : Type} [Quantity α] {clock : Clock} {r : Resolution}
    {agg : Aggregation} {pad : Padding α} {s : Series α} {k : Int} {v : α}
    (h : (s.rollup clock r agg pad)[k]? = some v) : IsKey clock r k := by
  rw [Series.rollup, Series.getElem?_reduceByKey] at h
  have hne : Series.groupAt ((s.presentPoints pad).map fun p => (bucketKey clock r p.1, p.2)) k ≠
      [] := by
    intro hnil
    rw [hnil] at h
    cases h
  obtain ⟨w, hw⟩ := List.exists_mem_of_ne_nil _ hne
  obtain ⟨q, hq, -⟩ := List.mem_map.1 hw
  obtain ⟨hmem, hk⟩ := List.mem_filter.1 hq
  obtain ⟨p, -, rfl⟩ := List.mem_map.1 hmem
  exact ⟨p.1, by simpa using hk⟩

/-- **No value of a rollup is lost on a grid that agrees,** and nothing stands outside of the
range. -/
theorem GridsAgree.getElem?_onto {α : Type} [Quantity α] {clock : Clock} {r : Resolution}
    {lo hi start stop : Int} (h : GridsAgree clock r lo hi) (hlo : lo ≤ start)
    (hlt : start < stop) (hhi : stop ≤ hi) (agg : Aggregation) (pad : Padding α) (s : Series α)
    (k : Int) :
    (∀ v, start ≤ k → k < stop → (s.rollup clock r agg pad)[k]? = some v →
      ((s.rollup clock r agg pad).onto (bucketKeys clock r start stop) pad)[k]? = some v) ∧
    (((s.rollup clock r agg pad).onto (bucketKeys clock r start stop) pad)[k]? ≠ none →
      start ≤ k ∧ k < stop) := by
  have hkeys := (h start stop hlo hlt hhi).2 k
  rw [Series.getElem?_onto]
  constructor
  · intro v hstart hstop hv
    rw [if_pos (hkeys.2 ⟨hstart, hstop, isKey_of_getElem?_rollup hv⟩), hv]
    rfl
  · intro hn
    by_cases hmem : k ∈ bucketKeys clock r start stop
    · obtain ⟨hstart, hstop, -⟩ := hkeys.1 hmem
      exact ⟨hstart, hstop⟩
    · rw [if_neg hmem] at hn
      exact absurd rfl hn

end MetricQuery
