/-
  MetricQuery.Proofs.Retrieval.Range
  ──────────────────────────────────
  **WHAT A RETRIEVAL CAN SEE.**

  A request is for a half-open range, but a fetch includes the end of it.  What
  is stored right at the end is cut away later if its bucket is on neither of
  the two grids, and it is cut away only then.

    • `AgreeOn`        — histories that say the same at the instants of a set,
    • `DependsOnlyOn`  — a retrieval that sees nothing outside the set,
    • `ReachesEnd`     — the end is fetched, and its bucket is on both grids,
    • `dependsOnlyOn_range` — what a retrieval sees, in both cases.
-/
import Mathlib.Tactic.Linarith
import MetricQuery.Proofs.Retrieval.Entities

namespace MetricQuery

variable {α : Type}

/-! ## §1. Histories that agree. -/

/-- Two histories say the same of the entities at the instants of a set. -/
def AgreeOn (entities : List Entity) (instants : Set Int) (ws ws' : List (Write α)) : Prop :=
  ∀ e ∈ entities, ∀ t ∈ instants, latestWrite ws e t = latestWrite ws' e t

/-- The retrieval yields the same from any two histories that agree on the instants. -/
def DependsOnlyOn [Quantity α] (clock : Clock) (request : Request α) (entities : List Entity)
    (instants : Set Int) : Prop :=
  ∀ ws ws' : List (Write α), AgreeOn entities instants ws ws' → ∀ p p' : Pipeline α,
    Plan.numeric ⟨(SampleStore.ofWrites ws).source, clock⟩ request = .ok p →
    Plan.numeric ⟨(SampleStore.ofWrites ws').source, clock⟩ request = .ok p' →
    (p.run .empty).outcome = (p'.run .empty).outcome

/-- The range of a request, its end excluded. -/
def Request.range (request : Request α) : Set Int :=
  {t | request.start ≤ t ∧ t < request.stop}

/-- A fetch reaches the end of the range, the bucket in which the end lies is on the node grid, and
that bucket lies in one of the result grid. -/
structure ReachesEnd (clock : Clock) (request : Request α) : Prop where
  inReach : InReach request.start request.stop request.stop
  onNodeGrid : bucketKey clock request.nodeResolution request.stop ∈
    bucketKeys clock request.nodeResolution request.start request.stop
  onResultGrid : bucketKey clock request.resultResolution
      (bucketKey clock request.nodeResolution request.stop) ∈
    bucketKeys clock request.resultResolution request.start request.stop

/-- An end that does not lie after the start of its bucket is out of reach. -/
theorem not_reachesEnd_of_le {clock : Clock} {request : Request α}
    (h : request.stop ≤ bucketKey clock request.nodeResolution request.stop) :
    ¬ ReachesEnd clock request := by
  intro hend
  have hlt := lt_of_mem_bucketKeys hend.onNodeGrid
  omega

/-! ## §2. What the answer depends on. -/

section Answer

variable [Quantity α] {clock : Clock} {request : Request α}

/-- Two accepted retrievals yield the same if and only if their answers are the same. -/
theorem outcome_eq_iff {ws ws' : List (Write α)} {entities : List Entity} {p p' : Pipeline α}
    (hsource : request.source = .entities entities)
    (hp : Plan.numeric ⟨(SampleStore.ofWrites ws).source, clock⟩ request = .ok p)
    (hp' : Plan.numeric ⟨(SampleStore.ofWrites ws').source, clock⟩ request = .ok p') :
    (p.run .empty).outcome = (p'.run .empty).outcome ↔
      ∀ k, answer clock request ((SampleStore.ofWrites ws).seen request.start request.stop)
          entities k =
        answer clock request ((SampleStore.ofWrites ws').seen request.start request.stop)
          entities k := by
  obtain ⟨series, hrun, hpoints⟩ := outcome_numeric_entities (tidy_ofWrites ws) hsource hp
  obtain ⟨series', hrun', hpoints'⟩ := outcome_numeric_entities (tidy_ofWrites ws') hsource hp'
  rw [hrun, hrun']
  constructor
  · intro h
    cases h
    intro k
    rw [← hpoints k, ← hpoints' k]
  · intro h
    have hseries : series = series' := by
      refine Std.ExtTreeMap.ext_getElem? ?_
      intro k
      rw [hpoints k, hpoints' k, h k]
    rw [hseries]

omit [Quantity α] in
theorem seen_eq_of_agreeOn {entities : List Entity} {instants : Set Int} {ws ws' : List (Write α)}
    (h : AgreeOn entities instants ws ws') {e : Entity} (he : e ∈ entities) {t : Int}
    (ht : InReach request.start request.stop t → t ∈ instants) :
    (SampleStore.ofWrites ws).seen request.start request.stop e t =
      (SampleStore.ofWrites ws').seen request.start request.stop e t := by
  rw [SampleStore.seen, SampleStore.seen, SampleStore.held_ofWrites, SampleStore.held_ofWrites]
  by_cases hr : InReach request.start request.stop t
  · rw [if_pos hr, if_pos hr, h e he t (ht hr)]
  · rw [if_neg hr, if_neg hr]

/-- **Nothing beyond the end is seen.** -/
theorem dependsOnlyOn_closedRange {entities : List Entity}
    (hsource : request.source = .entities entities) :
    DependsOnlyOn clock request entities request.closedRange := by
  intro ws ws' hagree p p' hp hp'
  refine (outcome_eq_iff hsource hp hp').2 (answer_congr ?_)
  intro b _ _ e he
  exact nodeValue_congr fun t _ _ => seen_eq_of_agreeOn hagree he fun hr => hr.1

/-- **Where the end is out of reach, nothing from the end on is seen.** -/
theorem dependsOnlyOn_of_not_reachesEnd {entities : List Entity}
    (hsource : request.source = .entities entities) (hend : ¬ ReachesEnd clock request) :
    DependsOnlyOn clock request entities request.range := by
  intro ws ws' hagree p p' hp hp'
  refine (outcome_eq_iff hsource hp hp').2 (answer_congr ?_)
  intro b hb hresult e he
  refine nodeValue_congr fun t _ htb => seen_eq_of_agreeOn hagree he fun hr => ⟨hr.1.1, ?_⟩
  -- The end itself is not fetched or lies in a bucket that is cut away.
  have hne : t ≠ request.stop := by
    rintro rfl
    subst htb
    exact hend ⟨hr, hb, hresult⟩
  have hle := hr.1.2
  omega

end Answer

/-! ## §3. One sample at the end. -/

/-- A value that is told from missing data even after copies of it have been reduced. -/
def Padding.Spares [Quantity α] (pad : Padding α) (v : α) : Prop :=
  ∀ (agg : Aggregation) (n : Nat) (y : α),
    agg.reduce (List.replicate (n + 1) v) = some y → pad.marks y = false

section End

variable [Quantity α]

/-- Where dividing by one changes nothing, one value is its own reduction. -/
theorem reduce_singleton (hone : ∀ x : α, x / Quantity.ofCount 1 = x) (agg : Aggregation) (v : α) :
    agg.reduce [v] = some v := by
  cases agg with
  | avg => exact congrArg some (hone v)
  | sum => rfl
  | max => rfl
  | min => rfl

/-- The history of one value that is written for an entity at the end of the range. -/
def endWrite (request : Request α) (e : Entity) (v : α) : List (Write α) :=
  [.value e request.stop v]

variable {clock : Clock} {request : Request α} {e : Entity} {v : α}

omit [Quantity α] in
theorem seen_endWrite (hend : InReach request.start request.stop request.stop) (f : Entity)
    (t : Int) :
    (SampleStore.ofWrites (endWrite request e v)).seen request.start request.stop f t =
      if e = f ∧ request.stop = t then some v else none := by
  rw [SampleStore.seen, SampleStore.held_ofWrites]
  by_cases h : e = f ∧ request.stop = t
  · obtain ⟨rfl, rfl⟩ := h
    simp [hend, endWrite, latestWrite, Write.tells]
  · simp [endWrite, latestWrite, Write.tells, h]

/-- The value at the end is the node value of the bucket in which the end lies. -/
theorem nodeValue_endWrite (clock : Clock) (e : Entity) (hone : ∀ x : α, x / Quantity.ofCount 1 = x)
    (hspares : request.padding.Spares v) (hend : InReach request.start request.stop request.stop)
    (f : Entity) (b : Int) :
    nodeValue clock request
        ((SampleStore.ofWrites (endWrite request e v)).seen request.start request.stop f) b =
      if f = e ∧ b = bucketKey clock request.nodeResolution request.stop then some v else none := by
  have hmark : request.padding.marks v = false := hspares .sum 0 v rfl
  have hkeep : request.padding.keep (some v) = some v := Padding.keep_eq_some_iff.2 ⟨rfl, hmark⟩
  by_cases h : f = e ∧ b = bucketKey clock request.nodeResolution request.stop
  · -- Of the instants in that bucket only the end has a value.
    obtain ⟨rfl, rfl⟩ := h
    have hpoint : ∀ t ∈ Int.range request.start (request.stop + 1),
        (if bucketKey clock request.nodeResolution t =
            bucketKey clock request.nodeResolution request.stop then
          request.padding.keep ((SampleStore.ofWrites (endWrite request f v)).seen request.start
            request.stop f t)
        else none) = if t = request.stop then some v else none := by
      intro t _
      rw [seen_endWrite hend]
      by_cases ht : t = request.stop
      · subst ht
        simp [hkeep]
      · simp [ht, Ne.symm ht]
    rw [nodeValue, List.filterMap_congr hpoint,
      Series.filterMap_eq_toList (pairwise_closedRange _ _) (fun _ => some v),
      if_pos (mem_closedRange.2 hend.1), if_pos ⟨rfl, rfl⟩, Option.toList_some,
      reduce_singleton hone, hkeep]
  · have hpoint : ∀ t ∈ Int.range request.start (request.stop + 1),
        (if bucketKey clock request.nodeResolution t = b then
          request.padding.keep ((SampleStore.ofWrites (endWrite request e v)).seen request.start
            request.stop f t)
        else none) = none := by
      intro t _
      rw [seen_endWrite hend]
      by_cases ht : e = f ∧ request.stop = t
      · obtain ⟨rfl, rfl⟩ := ht
        rw [if_neg (fun hb => h ⟨rfl, hb.symm⟩)]
      · rw [if_neg ht]
        simp
    rw [nodeValue, List.filterMap_congr hpoint, if_neg h]
    simp

/-- Entities that repeat one another contribute as many copies of the value. -/
theorem filterMap_eq_replicate {β : Type} (es : List Entity) (e : Entity) (v : β) :
    (es.filterMap fun f => if f = e then some v else none) = List.replicate (es.count e) v := by
  induction es with
  | nil => rfl
  | cons f es ih =>
      by_cases h : f = e
      · subst h
        simp [ih, List.replicate_succ]
      · simp [h, ih]

/-- The combined value of the bucket in which the end lies is there and is not missing; no other
bucket has one. -/
theorem combinedValue_endWrite (clock : Clock) (e : Entity)
    (hone : ∀ x : α, x / Quantity.ofCount 1 = x) (hspares : request.padding.Spares v)
    (hend : InReach request.start request.stop request.stop) (es : List Entity) :
    ∃ y, request.padding.marks y = false ∧ ∀ b,
      combinedValue clock request
          ((SampleStore.ofWrites (endWrite request e v)).seen request.start request.stop)
          (e :: es) b =
        if b = bucketKey clock request.nodeResolution request.stop then some y else none := by
  have hnode := fun f b => nodeValue_endWrite clock e hone hspares hend f b
  match es with
  | [] =>
      refine ⟨v, hspares .sum 0 v rfl, ?_⟩
      intro b
      rw [combinedValue, hnode]
      simp
  | f :: es =>
      have hsome : (request.combineAggregation.reduce
          (List.replicate ((f :: es).count e + 1) v)).isSome = true :=
        Aggregation.isSome_reduce_iff.2 ⟨v, List.mem_replicate.2 ⟨Nat.succ_ne_zero _, rfl⟩⟩
      obtain ⟨y, hy⟩ := Option.isSome_iff_exists.1 hsome
      have hmark := hspares _ _ y hy
      refine ⟨y, hmark, ?_⟩
      intro b
      rw [combinedValue_several]
      simp only [hnode]
      by_cases hb : b = bucketKey clock request.nodeResolution request.stop
      · simp only [hb, and_true, if_true]
        rw [filterMap_eq_replicate, List.count_cons_self, hy]
        exact Padding.keep_eq_some_iff.2 ⟨rfl, hmark⟩
      · simp [hb]

/-- Without a write no bucket has a value. -/
theorem combinedValue_nothing (clock : Clock) (request : Request α) (entities : List Entity)
    (b : Int) :
    combinedValue clock request
      ((SampleStore.ofWrites []).seen request.start request.stop) entities b = none := by
  have hseen : (SampleStore.ofWrites ([] : List (Write α))).seen request.start request.stop =
      fun _ _ => none := by
    funext f t
    rw [SampleStore.seen, SampleStore.held_ofWrites]
    exact ite_self _
  have hnode : nodeValue clock request (fun _ => none) b = none := by
    simp [nodeValue]
  rw [hseen]
  rcases entities with _ | ⟨f, _ | ⟨g, es⟩⟩
  · rfl
  · exact hnode
  · rw [combinedValue_several]
    simp [hnode]

/-- The value of the result where one node bucket alone may have a value. -/
theorem resultValue_of_combinedValue {data : Entity → Int → Option α} {entities : List Entity}
    {b : Int} {value : Option α}
    (hb : b ∈ bucketKeys clock request.nodeResolution request.start request.stop)
    (h : ∀ c, combinedValue clock request data entities c = if c = b then value else none) :
    resultValue clock request data entities (bucketKey clock request.resultResolution b) =
      request.resultAggregation.reduce value.toList := by
  have hpoint : ∀ c ∈ bucketKeys clock request.nodeResolution request.start request.stop,
      (if bucketKey clock request.resultResolution c =
          bucketKey clock request.resultResolution b then
        combinedValue clock request data entities c else none) =
      if c = b then value else none := by
    intro c _
    rw [h c]
    by_cases hc : c = b
    · subst hc
      simp
    · simp [hc]
  rw [resultValue, List.filterMap_congr hpoint,
    Series.filterMap_eq_toList (pairwise_bucketKeys _ _ _ _) (fun _ => value), if_pos hb]

/-- **Where the end is within reach, a sample at the end is seen.** -/
theorem not_dependsOnlyOn_of_reachesEnd (hone : ∀ x : α, x / Quantity.ofCount 1 = x)
    (hspares : request.padding.Spares v) {es : List Entity}
    (hsource : request.source = .entities (e :: es)) (hrange : request.start < request.stop)
    (hend : ReachesEnd clock request) :
    ¬ DependsOnlyOn clock request (e :: es) request.range := by
  intro hdep
  obtain ⟨p, hp⟩ := Plan.numeric_accepts ⟨(SampleStore.ofWrites []).source, clock⟩ request hsource
    hrange
  obtain ⟨p', hp'⟩ := Plan.numeric_accepts
    ⟨(SampleStore.ofWrites (endWrite request e v)).source, clock⟩ request hsource hrange
  -- The fresh store and one write at the end differ at no instant of the range.
  have hagree : AgreeOn (e :: es) request.range []
      (endWrite request e v) := by
    intro f _ t ht
    have hlt : t < request.stop := ht.2
    have hne : ¬ (e = f ∧ request.stop = t) := by omega
    simp [latestWrite, endWrite, Write.tells, hne]
  have hsame := (outcome_eq_iff hsource hp hp').1 (hdep [] _ hagree p p' hp hp')
    (bucketKey clock request.resultResolution
      (bucketKey clock request.nodeResolution request.stop))
  rw [answer, answer, if_pos hend.onResultGrid, if_pos hend.onResultGrid] at hsame
  obtain ⟨y, hmark, hcombined⟩ := combinedValue_endWrite clock e hone hspares hend.inReach es
  have hwith : resultValue clock request
      ((SampleStore.ofWrites (endWrite request e v)).seen request.start request.stop)
      (e :: es) (bucketKey clock request.resultResolution
        (bucketKey clock request.nodeResolution request.stop)) = some y := by
    rw [resultValue_of_combinedValue hend.onNodeGrid hcombined]
    exact reduce_singleton hone _ y
  have hwithout : resultValue clock request
      ((SampleStore.ofWrites []).seen request.start request.stop)
      (e :: es) (bucketKey clock request.resultResolution
        (bucketKey clock request.nodeResolution request.stop)) = none := by
    have hnothing : ∀ c, combinedValue clock request
        ((SampleStore.ofWrites []).seen request.start request.stop) (e :: es) c =
          if c = bucketKey clock request.nodeResolution request.stop then none else none := by
      intro c
      rw [combinedValue_nothing, ite_self]
    rw [resultValue_of_combinedValue hend.onNodeGrid hnothing]
    rfl
  rw [hwith, hwithout] at hsame
  -- The result would be the padding, which is missing, and it is not.
  have hy : request.padding.value = y := Option.some.inj hsame
  rw [← hy, request.padding.marks_value] at hmark
  cases hmark

end End

/-- Exact padding spares every value that is larger than it and than zero. -/
theorem spares_rational (pad : Padding ℚ) : pad.Spares (|pad.value| + 1) := by
  intro agg n y hy
  rw [reduce_replicate] at hy
  cases hy
  have hpad : pad.value ≤ |pad.value| := le_abs_self _
  have hnonneg : 0 ≤ |pad.value| := abs_nonneg _
  -- A sum of copies moves further away from the padding, never onto it.
  have hcopies : |pad.value| + 1 ≤ ((n + 1 : Nat) : ℚ) * (|pad.value| + 1) := by
    have hn : (1 : ℚ) ≤ ((n + 1 : Nat) : ℚ) := by
      push_cast
      linarith [(Nat.cast_nonneg n : (0 : ℚ) ≤ n)]
    nlinarith
  rw [marks_rational, decide_eq_false_iff_not]
  intro heq
  split at heq <;> linarith

/-! ## §4. The range of a retrieval. -/

/-- **What a retrieval of entities sees.**  Nothing beyond the end, whatever is asked; nothing from
the end on, if the end is out of reach.  If it is within reach, a sample right at the end is seen,
on numbers that division by one leaves alone and of which the padding spares some. -/
theorem dependsOnlyOn_range [Quantity α] (clock : Clock) (request : Request α) (e : Entity)
    (es : List Entity) (hsource : request.source = .entities (e :: es))
    (hrange : request.start < request.stop) :
    DependsOnlyOn clock request (e :: es) request.closedRange ∧
    (¬ ReachesEnd clock request →
      DependsOnlyOn clock request (e :: es) request.range) ∧
    ((∀ x : α, x / Quantity.ofCount 1 = x) → (∃ v, request.padding.Spares v) →
      ReachesEnd clock request →
      ¬ DependsOnlyOn clock request (e :: es) request.range) := by
  refine ⟨dependsOnlyOn_closedRange hsource, dependsOnlyOn_of_not_reachesEnd hsource, ?_⟩
  rintro hone ⟨v, hspares⟩ hend
  exact not_dependsOnlyOn_of_reachesEnd hone hspares hsource hrange hend

/-- Up to a full minute the samples before the end decide, up to half a minute they do not. -/
theorem dependsOnlyOn_minutes :
    DependsOnlyOn Zone.utc.clock (minuteSums [⟨"1", "1"⟩] 0 120) [⟨"1", "1"⟩]
        {t | 0 ≤ t ∧ t < 120} ∧
      ¬ DependsOnlyOn Zone.utc.clock (minuteSums [⟨"1", "1"⟩] 0 90) [⟨"1", "1"⟩]
        {t | 0 ≤ t ∧ t < 90} := by
  have hone : ∀ x : ℚ, x / Quantity.ofCount 1 = x := fun x => by
    show x / ((1 : Nat) : ℚ) = x
    simp
  constructor
  · refine (dependsOnlyOn_range Zone.utc.clock (minuteSums [⟨"1", "1"⟩] 0 120) _ [] rfl
      (by decide)).2.1 ?_
    exact not_reachesEnd_of_le (by decide +kernel)
  · refine (dependsOnlyOn_range Zone.utc.clock (minuteSums [⟨"1", "1"⟩] 0 90) _ [] rfl
      (by decide)).2.2 hone ⟨_, spares_rational _⟩ ?_
    exact ⟨by decide, by decide +kernel, by decide +kernel⟩

/-- **A sample at the end is counted** in the last minute of the range, which it is not part of:
one history has nothing to say before the end, the other has a five right at it. -/
theorem sample_at_end_is_counted :
    ∃ (ws ws' : List (Write ℚ)) (p p' : Pipeline ℚ) (series series' : Series ℚ),
      AgreeOn [⟨"1", "1"⟩] {t | 0 ≤ t ∧ t < 90} ws ws' ∧
      Plan.numeric ⟨(SampleStore.ofWrites ws).source, Zone.utc.clock⟩
        (minuteSums [⟨"1", "1"⟩] 0 90) = .ok p ∧
      Plan.numeric ⟨(SampleStore.ofWrites ws').source, Zone.utc.clock⟩
        (minuteSums [⟨"1", "1"⟩] 0 90) = .ok p' ∧
      (p.run .empty).outcome = .ok (.series series) ∧
      (p'.run .empty).outcome = .ok (.series series') ∧
      series[(60 : Int)]? = some 0 ∧ series'[(60 : Int)]? = some 5 := by
  obtain ⟨p, hp⟩ := Plan.numeric_accepts ⟨(SampleStore.ofWrites []).source, Zone.utc.clock⟩
    (minuteSums [⟨"1", "1"⟩] 0 90) rfl (by decide)
  obtain ⟨p', hp'⟩ := Plan.numeric_accepts
    ⟨(SampleStore.ofWrites [.value ⟨"1", "1"⟩ 90 5]).source, Zone.utc.clock⟩
    (minuteSums [⟨"1", "1"⟩] 0 90) rfl (by decide)
  obtain ⟨series, hrun, hpoints⟩ := outcome_numeric_entities (tidy_ofWrites _) rfl hp
  obtain ⟨series', hrun', hpoints'⟩ := outcome_numeric_entities (tidy_ofWrites _) rfl hp'
  refine ⟨[], _, p, p', series, series', ?_, hp, hp', hrun, hrun', ?_, ?_⟩
  · intro e _ t ht
    have hlt : t < 90 := ht.2
    have hne : ¬ (90 : Int) = t := by omega
    simp [latestWrite, Write.tells, hne]
  · exact (hpoints 60).trans (by decide +kernel)
  · exact (hpoints' 60).trans (by decide +kernel)

end MetricQuery
