/-
  MetricQuery.Proofs.Time.Walk
  ────────────────────────────
  **THE LOOP THAT WALKS A GRID.**

  The keys of a range are listed by a loop: as long as the key it has come to is
  before the end, it lists the key and hops to the next one.  The loop asks a
  clock twice for every hop, and nothing is asked of what the clock answers.

    • `GridWalk.turn?`          — one turn of the loop,
    • `GridWalk.turns?`         — so many turns,
    • `GridWalk.listed_of_turns?` — what is listed and what is to come are the grid,
    • `GridWalk.exists_done`    — the loop ends, in no more turns than there are seconds,
    • `isChain_bucketKeysFrom`  — every key is the next one of the key before it,
    • `bucketKeys_walk`         — **the loop ends with the grid, which never repeats a key.**
-/
import Mathlib.Data.List.Chain
import MetricQuery.Proofs.Time.Grid

namespace MetricQuery

/-! ## §1. One turn, and many. -/

/-- A walk under way: the keys that it has listed, and the key that it has come to. -/
structure GridWalk where
  listed : List Int
  key : Int
  deriving DecidableEq, Repr

/-- One turn of the loop: list the key and hop on.  There is none once the key has come to the
end of the range. -/
def GridWalk.turn? (clock : Clock) (r : Resolution) (stop : Int) (w : GridWalk) :
    Option GridWalk :=
  if w.key < stop then some ⟨w.listed ++ [w.key], nextBucketKey clock r w.key⟩ else none

/-- So many turns of the loop, if it has as many. -/
def GridWalk.turns? (clock : Clock) (r : Resolution) (stop : Int) :
    Nat → GridWalk → Option GridWalk
  | 0, w => some w
  | n + 1, w => (w.turn? clock r stop).bind (GridWalk.turns? clock r stop n)

variable {clock : Clock} {r : Resolution} {stop : Int} {w w' : GridWalk}

/-- **All that a turn does:** the key was before the end, it is listed, and the walk stands at the
next one. -/
theorem GridWalk.turn?_eq_some_iff : w.turn? clock r stop = some w' ↔
    w.key < stop ∧ w' = ⟨w.listed ++ [w.key], nextBucketKey clock r w.key⟩ := by
  unfold GridWalk.turn?
  by_cases hlt : w.key < stop
  · rw [if_pos hlt, Option.some.injEq, eq_comm]
    exact (and_iff_right hlt).symm
  · rw [if_neg hlt]
    constructor
    · intro h
      cases h
    · intro h
      exact absurd h.1 hlt

theorem GridWalk.turn?_eq_none_iff : w.turn? clock r stop = none ↔ stop ≤ w.key := by
  simp [GridWalk.turn?]

/-! ## §2. What a turn keeps. -/

/-- What a walk has listed, with what is to come from its key on. -/
def GridWalk.whole (clock : Clock) (r : Resolution) (stop : Int) (w : GridWalk) : List Int :=
  w.listed ++ bucketKeysFrom clock r stop w.key

/-- A turn moves the first key to come to the end of those listed. -/
theorem GridWalk.whole_of_turn? (h : w.turn? clock r stop = some w') :
    w'.whole clock r stop = w.whole clock r stop := by
  obtain ⟨hlt, rfl⟩ := GridWalk.turn?_eq_some_iff.1 h
  unfold GridWalk.whole
  rw [bucketKeysFrom_of_lt hlt, List.append_assoc, List.singleton_append]

/-- A turn brings the walk at least a second further, whatever the clock says. -/
theorem GridWalk.key_lt_of_turn? (h : w.turn? clock r stop = some w') : w.key < w'.key := by
  obtain ⟨-, rfl⟩ := GridWalk.turn?_eq_some_iff.1 h
  exact key_lt_nextBucketKey clock r w.key

/-- **What turns keep, and how far they get:** the whole of the walk stays as it is, and every turn
is worth a second. -/
theorem GridWalk.whole_of_turns? {n : Nat} (h : GridWalk.turns? clock r stop n w = some w') :
    w'.whole clock r stop = w.whole clock r stop ∧ w.key + n ≤ w'.key := by
  -- The first turn is split off: what it keeps is where the other turns set out from.
  induction n generalizing w with
  | zero =>
      cases h
      exact ⟨rfl, by omega⟩
  | succ n ih =>
      obtain ⟨mid, hturn, hrest⟩ := Option.bind_eq_some_iff.1 h
      obtain ⟨hwhole, hkey⟩ := ih hrest
      have hlt := GridWalk.key_lt_of_turn? hturn
      exact ⟨hwhole.trans (GridWalk.whole_of_turn? hturn), by omega⟩

/-- A walk that has ended has listed the whole of it. -/
theorem GridWalk.listed_of_turns? {n : Nat} (h : GridWalk.turns? clock r stop n w = some w')
    (hdone : w'.turn? clock r stop = none) : w'.listed = w.whole clock r stop := by
  rw [← (GridWalk.whole_of_turns? h).1]
  unfold GridWalk.whole
  rw [bucketKeysFrom_of_le (GridWalk.turn?_eq_none_iff.1 hdone), List.append_nil]

/-! ## §3. The end of the loop. -/

/-- **The loop ends,** after no more turns than there are seconds to the end of the range. -/
theorem GridWalk.exists_done (clock : Clock) (r : Resolution) (stop : Int) (w : GridWalk) :
    ∃ n w', n ≤ (stop - w.key).toNat ∧ GridWalk.turns? clock r stop n w = some w' ∧
      w'.turn? clock r stop = none := by
  -- The seconds to the end go down with every turn, for no turn stands still or goes back.
  obtain ⟨seconds, hseconds⟩ : ∃ seconds, (stop - w.key).toNat = seconds := ⟨_, rfl⟩
  induction seconds using Nat.strongRecOn generalizing w with
  | ind seconds ih =>
      cases hturn : w.turn? clock r stop with
      | none => exact ⟨0, w, Nat.zero_le _, rfl, hturn⟩
      | some mid =>
          have hlt := (GridWalk.turn?_eq_some_iff.1 hturn).1
          have hkey := GridWalk.key_lt_of_turn? hturn
          obtain ⟨n, w', hn, hturns, hdone⟩ :=
            ih (stop - mid.key).toNat (by omega) mid rfl
          refine ⟨n + 1, w', by omega, ?_, hdone⟩
          rw [GridWalk.turns?, hturn]
          exact hturns

/-! ## §4. The keys that are listed. -/

/-- Every key of a walk is the next one of the key before it. -/
theorem isChain_bucketKeysFrom (clock : Clock) (r : Resolution) (stop key : Int) :
    (bucketKeysFrom clock r stop key).IsChain (fun k k' => k' = nextBucketKey clock r k) := by
  induction key using bucketKeysFrom_induction clock r stop with
  | done key hk =>
      rw [bucketKeysFrom_of_le hk]
      exact List.IsChain.nil
  | hop key hk ih =>
      rw [bucketKeysFrom_of_lt hk]
      refine List.isChain_cons.2 ⟨?_, ih⟩
      -- The walk from the next key begins with it, or has no key at all.
      intro k hhead
      by_cases hnext : nextBucketKey clock r key < stop
      · rw [bucketKeysFrom_of_lt hnext, List.head?_cons] at hhead
        exact (Option.some.inj hhead).symm
      · rw [bucketKeysFrom_of_le (by omega)] at hhead
        cases hhead

/-- **The loop that lists a grid ends, and never repeats a key.**  Whatever the clock answers, the
loop runs out after at most as many turns as the range has seconds from its first key on, with the
grid as what it has listed; the keys of the grid ascend strictly, are all before the end of the
range, and each is the next one of the key before it. -/
theorem bucketKeys_walk (clock : Clock) (r : Resolution) (start stop : Int) :
    (∃ n w, n ≤ (stop - firstKey clock r start).toNat ∧
      GridWalk.turns? clock r stop n ⟨[], firstKey clock r start⟩ = some w ∧
      w.turn? clock r stop = none ∧ w.listed = bucketKeys clock r start stop) ∧
    (bucketKeys clock r start stop).Pairwise (· < ·) ∧
    (∀ k ∈ bucketKeys clock r start stop, k < stop) ∧
    (bucketKeys clock r start stop).IsChain (fun k k' => k' = nextBucketKey clock r k) := by
  refine ⟨?_, pairwise_bucketKeys clock r start stop, fun k => lt_of_mem_bucketKeys,
    isChain_bucketKeysFrom clock r stop (firstKey clock r start)⟩
  obtain ⟨n, w, hn, hturns, hdone⟩ :=
    GridWalk.exists_done clock r stop ⟨[], firstKey clock r start⟩
  exact ⟨n, w, hn, hturns, hdone, GridWalk.listed_of_turns? hturns hdone⟩

end MetricQuery
