/-
  MetricQuery.Proofs.Time.Grid
  ────────────────────────────
  **THE GRID OF A RANGE, HOP BY HOP.**

  A grid is walked from its first key by hops to the next one.  Whatever the
  clock says, a hop goes forward, and so the keys of a grid ascend and end
  before the end of the range.

    • `firstKey`              — where the walk begins,
    • `bucketKeysFrom_append` — a walk that comes to an instant, cut there in two,
    • `pairwise_bucketKeys`   — the keys ascend strictly,
    • `lt_of_mem_bucketKeys`  — they end before the end of the range,
    • `mem_bucketKeys_of_self` — a grid that begins with a bucket has its key,
    • `mem_bucketKeysFrom_iff_of_meets` — a walk that meets every instant of a kind
                                lists them.
-/
import MetricQuery.Time.Bucket

namespace MetricQuery

variable {clock : Clock} {r : Resolution}

/-! ## §1. Walking from a key. -/

/-- A bucket starts at the local time cut down to its size, taken back to universal time. -/
theorem bucketKey_eq_sub {t offset : Int} (h : clock.offsetAt t = offset) :
    bucketKey clock r t = t + offset - (t + offset) % r.size -
      clock.localOffset (t + offset - (t + offset) % r.size)
        (if r = .day then none else some offset) := by
  subst h
  rfl

/-- The key at which the grid of a range that starts at `t` begins. -/
def firstKey (clock : Clock) (r : Resolution) (t : Int) : Int :=
  if bucketKey clock r t < t then nextBucketKey clock r (bucketKey clock r t)
  else bucketKey clock r t

theorem bucketKeys_eq (start stop : Int) :
    bucketKeys clock r start stop = bucketKeysFrom clock r stop (firstKey clock r start) := rfl

/-- Where a bucket starts, the walk begins there. -/
theorem firstKey_of_self {t : Int} (h : bucketKey clock r t = t) : firstKey clock r t = t := by
  unfold firstKey
  rw [h, if_neg (Int.lt_irrefl t)]

/-- Induction along the walk that ends before `stop`. -/
theorem bucketKeysFrom_induction (clock : Clock) (r : Resolution) (stop : Int) {P : Int → Prop}
    (done : ∀ key, stop ≤ key → P key)
    (hop : ∀ key, key < stop → P (nextBucketKey clock r key) → P key) (key : Int) : P key := by
  by_cases h : key < stop
  · have hlt := key_lt_nextBucketKey clock r key
    exact hop key h (bucketKeysFrom_induction clock r stop done hop (nextBucketKey clock r key))
  · exact done key (by omega)
termination_by (stop - key).toNat
decreasing_by omega

theorem lt_of_mem_bucketKeysFrom {stop key k : Int} (h : k ∈ bucketKeysFrom clock r stop key) :
    k < stop := by
  induction key using bucketKeysFrom_induction clock r stop with
  | done key hk =>
      rw [bucketKeysFrom_of_le hk] at h
      cases h
  | hop key hk ih =>
      rw [bucketKeysFrom_of_lt hk, List.mem_cons] at h
      rcases h with rfl | h
      · exact hk
      · exact ih h

theorem le_of_mem_bucketKeysFrom {stop key k : Int} (h : k ∈ bucketKeysFrom clock r stop key) :
    key ≤ k := by
  induction key using bucketKeysFrom_induction clock r stop with
  | done key hk =>
      rw [bucketKeysFrom_of_le hk] at h
      cases h
  | hop key hk ih =>
      rw [bucketKeysFrom_of_lt hk, List.mem_cons] at h
      rcases h with rfl | h
      · exact Int.le_refl k
      · have hlt := key_lt_nextBucketKey clock r key
        have hle := ih h
        omega

theorem pairwise_bucketKeysFrom (clock : Clock) (r : Resolution) (stop key : Int) :
    (bucketKeysFrom clock r stop key).Pairwise (· < ·) := by
  induction key using bucketKeysFrom_induction clock r stop with
  | done key hk =>
      rw [bucketKeysFrom_of_le hk]
      exact List.Pairwise.nil
  | hop key hk ih =>
      rw [bucketKeysFrom_of_lt hk]
      refine List.Pairwise.cons ?_ ih
      intro k hmem
      have hlt := key_lt_nextBucketKey clock r key
      have hle := le_of_mem_bucketKeysFrom hmem
      omega

/-- What a walk sets out with and every hop preserves holds of all its keys. -/
theorem forall_mem_bucketKeysFrom {P : Int → Prop} {stop key : Int}
    (hop : ∀ k, P k → P (nextBucketKey clock r k)) (hkey : P key) :
    ∀ k ∈ bucketKeysFrom clock r stop key, P k := by
  induction key using bucketKeysFrom_induction clock r stop with
  | done key hk =>
      rw [bucketKeysFrom_of_le hk]
      exact List.forall_mem_nil P
  | hop key hk ih =>
      rw [bucketKeysFrom_of_lt hk]
      exact List.forall_mem_cons.2 ⟨hkey, ih (hop key hkey)⟩

/-- **A walk that comes to `b` is two walks,** one up to there and one from there on. -/
theorem bucketKeysFrom_append {P : Int → Prop} {b stop key : Int} (hstop : b ≤ stop)
    (hop : ∀ k, P k → k < b → P (nextBucketKey clock r k) ∧ nextBucketKey clock r k ≤ b)
    (hkey : P key) (hle : key ≤ b) :
    bucketKeysFrom clock r stop key =
      bucketKeysFrom clock r b key ++ bucketKeysFrom clock r stop b := by
  induction key using bucketKeysFrom_induction clock r b with
  | done key hb =>
      have heq : key = b := by omega
      rw [heq, bucketKeysFrom_of_le (Int.le_refl b), List.nil_append]
  | hop key hlt ih =>
      obtain ⟨hnext, hnextle⟩ := hop key hkey hlt
      rw [bucketKeysFrom_of_lt hlt, bucketKeysFrom_of_lt (show key < stop by omega),
        ih hnext hnextle, List.cons_append]

/-! ## §2. The grid. -/

/-- **The keys of a grid ascend strictly.** -/
theorem pairwise_bucketKeys (clock : Clock) (r : Resolution) (start stop : Int) :
    (bucketKeys clock r start stop).Pairwise (· < ·) :=
  pairwise_bucketKeysFrom clock r stop _

/-- **The keys of a grid end before the end of the range.** -/
theorem lt_of_mem_bucketKeys {start stop k : Int} (h : k ∈ bucketKeys clock r start stop) :
    k < stop :=
  lt_of_mem_bucketKeysFrom h

/-- **A grid that begins with a bucket** has its key, if the range has an instant at all. -/
theorem mem_bucketKeys_of_self {start stop : Int} (h : bucketKey clock r start = start)
    (hlt : start < stop) : start ∈ bucketKeys clock r start stop := by
  rw [bucketKeys_eq, firstKey_of_self h, bucketKeysFrom_of_lt hlt]
  exact List.mem_cons_self

/-! ## §3. Walks that meet every instant of a kind. -/

/-- As far as can be told before `stop`, `n` is the first instant of the kind from `since` on. -/
structure Meets (P : Int → Prop) (stop since n : Int) : Prop where
  hit : n < stop → since ≤ n ∧ P n
  le : ∀ x, since ≤ x → x < stop → P x → n ≤ x

/-- **A walk that meets every instant of a kind lists them.** -/
theorem mem_bucketKeysFrom_iff_of_meets {P : Int → Prop} {stop since n : Int}
    (hop : ∀ k, since ≤ k → k < stop → P k → Meets P stop (k + 1) (nextBucketKey clock r k))
    (hn : Meets P stop since n) (k : Int) :
    k ∈ bucketKeysFrom clock r stop n ↔ since ≤ k ∧ k < stop ∧ P k := by
  -- Along the walk, the instant since which they are listed moves on past each of them.
  induction n using bucketKeysFrom_induction clock r stop generalizing since with
  | done n hle =>
      rw [bucketKeysFrom_of_le hle]
      constructor
      · intro hk
        cases hk
      · intro hk
        have hnk := hn.le k hk.1 hk.2.1 hk.2.2
        omega
  | hop n hlt ih =>
      obtain ⟨hsince, hPn⟩ := hn.hit hlt
      have hrest := ih (fun x hx => hop x (by omega)) (hop n hsince hlt hPn)
      rw [bucketKeysFrom_of_lt hlt, List.mem_cons, hrest]
      constructor
      · intro hk
        cases hk with
        | inl heq =>
            rw [heq]
            exact ⟨hsince, hlt, hPn⟩
        | inr hk => exact ⟨by omega, hk.2⟩
      · intro hk
        have hnk := hn.le k hk.1 hk.2.1 hk.2.2
        by_cases heq : k = n
        · exact Or.inl heq
        · exact Or.inr ⟨by omega, hk.2⟩

end MetricQuery
