/-
  MetricQuery.Proofs.Retrieval.Sources
  ────────────────────────────────────
  **DIFFERENT SOURCES, ONE RESULT.**

  Requests for different sources go through different steps.  One entity is taken
  as it is, several are combined, and a formula is rolled up and laid on the node
  grid once more after its variables have been.  Where the keys of the node grid
  are their own keys, the second time changes nothing, and so a formula that is
  one variable yields what its entity does.  An entity that has nothing to
  present adds nothing to the others.

    • `Request.asking`          — a request with another source,
    • `keep_nodeSeries_nodeSeries` — a series on the node grid, rolled up once more,
    • `retrieve_variableText`   — a variable and its entity,
    • `first_day_is_lost`       — a key before the calendar, which is not its own,
    • `combinedValue_eq`        — one entity combined like several,
    • `retrieve_insert`         — entities without data.
-/
import MetricQuery.Proofs.Formula.Lexing
import MetricQuery.Proofs.Retrieval.Formulas
import MetricQuery.Proofs.Retrieval.Range
import MetricQuery.Proofs.Time.Fixed

namespace MetricQuery

variable {α : Type}

/-- The same request for another source. -/
def Request.asking (request : Request α) (source : Source) : Request α :=
  { request with source }

variable [Quantity α]

theorem Padding.keep_keep (pad : Padding α) (v : Option α) :
    pad.keep (pad.keep v) = pad.keep v := by
  unfold keep
  rw [Option.filter_filter]
  simp

/-- At most one value is its own reduction, where dividing by one changes nothing. -/
theorem reduce_toList (hone : ∀ x : α, x / Quantity.ofCount 1 = x) (agg : Aggregation)
    (v : Option α) : agg.reduce v.toList = v := by
  cases v with
  | none => rfl
  | some x => exact reduce_singleton hone agg x

/-! ## §1. A variable and its entity. -/

namespace Plan

/-- A series on the node grid, rolled up once more: each bucket gathers what is presented at the
keys of the grid that lie in it. -/
theorem getElem?_rollup_nodeSeries (plan : Plan α) (request : Request α) (samples : Series α)
    (k : Int) :
    ((plan.nodeSeries request samples).rollup plan.clock request.nodeResolution
        request.nodeAggregation request.padding)[k]? =
      request.nodeAggregation.reduce ((plan.grid request request.nodeResolution).filterMap fun u =>
        if bucketKey plan.clock request.nodeResolution u = k then
          request.padding.keep (plan.nodeSeries request samples)[u]?
        else none) := by
  refine Series.getElem?_rollup plan.clock _ _ (pairwise_bucketKeys _ _ _ _) ?_ k
  intro u v hv
  rw [nodeSeries, regrid, Series.keep_getElem?_onto] at hv
  split at hv
  · assumption
  · cases hv

/-- **On keys that are their own keys, rolling up once more changes nothing.** -/
theorem keep_nodeSeries_nodeSeries (hone : ∀ x : α, x / Quantity.ofCount 1 = x) (plan : Plan α)
    (request : Request α) (hkeys : ∀ k ∈ plan.grid request request.nodeResolution,
      bucketKey plan.clock request.nodeResolution k = k) (samples : Series α) (k : Int) :
    request.padding.keep
        (plan.nodeSeries request (plan.nodeSeries request samples))[k]? =
      request.padding.keep (plan.nodeSeries request samples)[k]? := by
  have hgrid : ∀ s : Series α, request.padding.keep (plan.nodeSeries request s)[k]? =
      if k ∈ plan.grid request request.nodeResolution then
        request.padding.keep (s.rollup plan.clock request.nodeResolution request.nodeAggregation
          request.padding)[k]?
      else none := fun s => Series.keep_getElem?_onto _ _ _ k
  by_cases hk : k ∈ plan.grid request request.nodeResolution
  · rw [hgrid (plan.nodeSeries request samples), if_pos hk, getElem?_rollup_nodeSeries]
    -- Of the keys of the grid only `k` itself lies in its bucket.
    have hself : ∀ u ∈ plan.grid request request.nodeResolution,
        (if bucketKey plan.clock request.nodeResolution u = k then
          request.padding.keep (plan.nodeSeries request samples)[u]? else none) =
        if u = k then request.padding.keep (plan.nodeSeries request samples)[u]? else none := by
      intro u hu
      rw [hkeys u hu]
    have hordered : (plan.grid request request.nodeResolution).Pairwise (· < ·) :=
      pairwise_bucketKeys _ _ _ _
    rw [List.filterMap_congr hself, Series.filterMap_eq_toList hordered
        (fun u => request.padding.keep (plan.nodeSeries request samples)[u]?),
      if_pos hk, reduce_toList hone, Padding.keep_keep]
  · rw [hgrid, hgrid, if_neg hk, if_neg hk]

/-- Keys whose buckets are not on the grid are lost when they are rolled up once more. -/
theorem keep_nodeSeries_of_not_mem {plan : Plan α} {request : Request α}
    (hkeys : ∀ u ∈ plan.grid request request.nodeResolution,
      bucketKey plan.clock request.nodeResolution u ∉ plan.grid request request.nodeResolution)
    (samples : Series α) (k : Int) :
    request.padding.keep
      (plan.nodeSeries request (plan.nodeSeries request samples))[k]? = none := by
  rw [nodeSeries, regrid, Series.keep_getElem?_onto, getElem?_rollup_nodeSeries]
  split
  · rename_i hk
    have hgather : (plan.grid request request.nodeResolution).filterMap (fun u =>
        if bucketKey plan.clock request.nodeResolution u = k then
          request.padding.keep (plan.nodeSeries request samples)[u]? else none) = [] := by
      refine List.filterMap_eq_nil_iff.2 fun u hu => if_neg ?_
      rintro rfl
      exact hkeys u hu hk
    rw [hgather]
    rfl
  · rfl

/-- **The series of the variable for an entity** is that of the entity, rolled up once more. -/
theorem sourceSeries_variableText (plan : Plan α) (request : Request α)
    (samples : Entity → Series α) {e : Entity} (hsensor : IsWord e.sensor)
    (hnode : IsWord e.node) :
    plan.sourceSeries request samples (.formula (variableText e)) =
      .ok (plan.nodeSeries request (plan.nodeSeries request (samples e))) := by
  have hvalue : plan.variableValue request samples
      (Options.extend ∅ [("sid", e.sensor), ("nid", e.node)]) =
        .ok (.series (plan.nodeSeries request (samples e))) := by
    unfold variableValue entityOf requiredOption aggregationOf
    simp [Options.getElem?_extend, lastValue]
    rfl
  show ((parse (variableText e)).bind fun tree => plan.formulaSeries request samples tree) = _
  rw [parse_variableText hsensor hnode]
  show plan.formulaSeries request samples (.variable _) = _
  rw [formulaSeries, Expr.evaluate_variable, hvalue]
  rfl

/-- **What the variable for an entity yields** over a range that is not empty. -/
theorem retrieve_variable (s : SampleStore α) (clock : Clock) (request : Request α) (e : Entity)
    (hsensor : IsWord e.sensor) (hnode : IsWord e.node) (hrange : request.start < request.stop) :
    Plan.retrieve ⟨s.source, clock⟩ (request.asking (.formula (variableText e))) =
      .ok (.series (Plan.regrid ⟨s.source, clock⟩ request request.resultResolution
        request.resultAggregation (Plan.nodeSeries ⟨s.source, clock⟩ request
          (Plan.nodeSeries ⟨s.source, clock⟩ request (inRange s request e))))) := by
  rw [retrieve_of_lt s clock (request.asking (.formula (variableText e))) hrange,
    show (request.asking (.formula (variableText e))).source = .formula (variableText e) from rfl,
    sourceSeries_variableText _ _ _ hsensor hnode]
  rfl

end Plan

/-- **A formula that is the variable for an entity yields what the entity yields,** in zones and
ranges in which the keys of the node grid are their own keys.  Zones that never change are such,
unless they are more than half a day behind universal time, on ranges that start in the calendar. -/
theorem retrieve_variableText (clock : Clock) (ws : List (Write α)) (request : Request α)
    (e : Entity) (hone : ∀ x : α, x / Quantity.ofCount 1 = x) (hsensor : IsWord e.sensor)
    (hnode : IsWord e.node)
    (hkeys : (∀ k ∈ bucketKeys clock request.nodeResolution request.start request.stop,
        bucketKey clock request.nodeResolution k = k) ∨
      ∃ name offset, clock = (Zone.fixed name offset).clock ∧
        -(Resolution.day.size / 2) ≤ offset ∧ calendarFirst ≤ request.start) :
    Plan.retrieve ⟨(SampleStore.ofWrites ws).source, clock⟩
        (request.asking (.formula (variableText e))) =
      Plan.retrieve ⟨(SampleStore.ofWrites ws).source, clock⟩
        (request.asking (.entities [e])) ∧
    (request.start < request.stop → ∃ series : Series α,
      Plan.retrieve ⟨(SampleStore.ofWrites ws).source, clock⟩
        (request.asking (.entities [e])) = .ok (.series series)) := by
  have hself : ∀ k ∈ bucketKeys clock request.nodeResolution request.start request.stop,
      bucketKey clock request.nodeResolution k = k := by
    rcases hkeys with hself | ⟨name, offset, rfl, hoffset, hstart⟩
    · exact hself
    · exact fun k hk => Zone.bucketKey_of_mem_bucketKeys_fixed hoffset hstart hk
  by_cases hrange : request.start < request.stop
  · obtain ⟨series, hseries, -⟩ := Plan.retrieve_entities (tidy_ofWrites ws) clock
      (request.asking (.entities [e])) rfl hrange
    refine ⟨?_, fun _ => ⟨series, hseries⟩⟩
    rw [Plan.retrieve_variable _ clock request e hsensor hnode hrange,
      Plan.retrieve_of_lt _ clock (request.asking (.entities [e])) hrange]
    -- Both series are laid on the same grid in the end, and they present the same.
    refine congrArg (fun h => Except.ok (Frame.series h)) (Plan.regrid_congr _ _ _ _ fun k => ?_)
    exact Plan.keep_nodeSeries_nodeSeries hone ⟨_, clock⟩ request hself _ k
  · refine ⟨?_, fun h => absurd h hrange⟩
    have hempty : request.stop ≤ request.start := Int.not_lt.1 hrange
    rw [Plan.retrieve_of_le _ clock (request.asking (.formula (variableText e))) hempty,
      Plan.retrieve_of_le _ clock (request.asking (.entities [e])) hempty]
    rfl

/-- Samples of one minute, the first of them written twice. -/
def pumpSamples : List (Write ℚ) :=
  [.value ⟨"pump_1", "1.5"⟩ 70 5, .value ⟨"pump_1", "1.5"⟩ 75 2, .value ⟨"pump_1", "1.5"⟩ 70 4]

/-- Averages by the minute over an unaligned range. -/
def minuteAverages : Request ℚ :=
  { minuteSums [] 30 125 with nodeAggregation := .avg, combineAggregation := .avg }

/-- An identifier and a number as names, in a zone that never changes. -/
theorem retrieve_variableText_average :
    ∃ series : Series ℚ,
      Plan.retrieve ⟨(SampleStore.ofWrites pumpSamples).source,
        (Zone.fixed "Etc/GMT-5" 18000).clock⟩
        (minuteAverages.asking (.formula "[sid=pump_1,nid=1.5]")) = .ok (.series series) ∧
      series[(60 : Int)]? = some 3 ∧ series[(120 : Int)]? = some 0 := by
  have hvariable := retrieve_variableText (Zone.fixed "Etc/GMT-5" 18000).clock pumpSamples
    minuteAverages ⟨"pump_1", "1.5"⟩ div_one_rational
    ⟨.identifier, Or.inl rfl, 6, by decide +kernel⟩ ⟨.number, Or.inr rfl, 3, by decide +kernel⟩
    (Or.inr ⟨_, _, rfl, by decide, by decide⟩)
  obtain ⟨series, hseries, hpoints⟩ := Plan.retrieve_entities (tidy_ofWrites pumpSamples)
    (Zone.fixed "Etc/GMT-5" 18000).clock
    (minuteAverages.asking (.entities [⟨"pump_1", "1.5"⟩])) rfl (by decide)
  refine ⟨series, hvariable.1.trans hseries, ?_, ?_⟩
  · exact (hpoints 60).trans (by decide +kernel)
  · exact (hpoints 120).trans (by decide +kernel)

/-- Sums by the day, shown by the hour, over the five hours before the calendar. -/
def beforeCalendar : Request ℚ :=
  { minuteSums [] (-8334601246800) (-8334601228800) with
    nodeResolution := .day, resultResolution := .hour }

/-- The keys of the two grids, five hours ahead of universal time. -/
theorem bucketKeys_beforeCalendar :
    bucketKeys (Zone.fixed "Etc/GMT-5" 18000).clock .day (-8334601246800) (-8334601228800) =
        [-8334601246800] ∧
      (-8334601246800 : Int) ∈ bucketKeys (Zone.fixed "Etc/GMT-5" 18000).clock .hour
        (-8334601246800) (-8334601228800) := by
  constructor
  · decide +kernel
  · decide +kernel

/-- **The first day of the calendar has no key of its own** five hours ahead of universal time: it
starts before the calendar, where days are those of universal time.  The entity has the value that
is written at the beginning of the calendar, and the formula loses it. -/
theorem first_day_is_lost :
    ∃ u v : Series ℚ,
      Plan.retrieve ⟨(SampleStore.ofWrites [.value ⟨"1", "1"⟩ (-8334601228800) 1]).source,
        (Zone.fixed "Etc/GMT-5" 18000).clock⟩
        (beforeCalendar.asking (.entities [⟨"1", "1"⟩])) = .ok (.series u) ∧
      Plan.retrieve ⟨(SampleStore.ofWrites [.value ⟨"1", "1"⟩ (-8334601228800) 1]).source,
        (Zone.fixed "Etc/GMT-5" 18000).clock⟩
        (beforeCalendar.asking (.formula "[sid=1,nid=1]")) = .ok (.series v) ∧
      u[(-8334601246800 : Int)]? = some 1 ∧ v[(-8334601246800 : Int)]? = some 0 := by
  obtain ⟨hdays, hhours⟩ := bucketKeys_beforeCalendar
  have hword : IsWord "1" := ⟨.number, Or.inr rfl, 1, by decide +kernel⟩
  have hspares : beforeCalendar.padding.Spares 1 := by
    simpa [beforeCalendar, minuteSums] using spares_rational beforeCalendar.padding
  obtain ⟨u, hu, hpoints⟩ := Plan.retrieve_entities
    (tidy_ofWrites (endWrite beforeCalendar ⟨"1", "1"⟩ 1))
    (Zone.fixed "Etc/GMT-5" 18000).clock (beforeCalendar.asking (.entities [⟨"1", "1"⟩])) rfl
    (by decide)
  have hv := Plan.retrieve_variable (SampleStore.ofWrites (endWrite beforeCalendar ⟨"1", "1"⟩ 1))
    (Zone.fixed "Etc/GMT-5" 18000).clock beforeCalendar ⟨"1", "1"⟩ hword hword (by decide)
  refine ⟨u, _, hu, hv, ?_, ?_⟩
  · -- The value at the beginning of the calendar is the node value of the one day on the grid.
    have hcombined : ∀ c, combinedValue (Zone.fixed "Etc/GMT-5" 18000).clock beforeCalendar
        ((SampleStore.ofWrites (endWrite beforeCalendar ⟨"1", "1"⟩ 1)).seen beforeCalendar.start
          beforeCalendar.stop) [⟨"1", "1"⟩] c =
          if c = -8334601246800 then some 1 else none := by
      intro c
      show nodeValue _ _ _ c = _
      rw [nodeValue_endWrite _ _ div_one_rational hspares (by decide)]
      simp only [true_and]
      rfl
    have hday : (-8334601246800 : Int) ∈ bucketKeys (Zone.fixed "Etc/GMT-5" 18000).clock
        beforeCalendar.nodeResolution beforeCalendar.start beforeCalendar.stop :=
      hdays ▸ List.mem_singleton_self _
    have hresult : resultValue (Zone.fixed "Etc/GMT-5" 18000).clock beforeCalendar
        ((SampleStore.ofWrites (endWrite beforeCalendar ⟨"1", "1"⟩ 1)).seen beforeCalendar.start
          beforeCalendar.stop) [⟨"1", "1"⟩] (-8334601246800) = some 1 :=
      (resultValue_of_combinedValue hday hcombined).trans (reduce_toList div_one_rational _ _)
    exact (hpoints _).trans ((if_pos hhours).trans (congrArg (fun v => some (v.getD 0)) hresult))
  · -- That day is no bucket of its own, and so it gathers nothing when it is rolled up once more.
    refine (Plan.getElem?_regrid_of_keep _ _ _ _ ?_ _).trans (if_pos hhours)
    refine Plan.keep_nodeSeries_of_not_mem ?_ _
    show ∀ u ∈ bucketKeys _ _ _ _, _ ∉ bucketKeys _ _ _ _
    rw [show bucketKeys (Zone.fixed "Etc/GMT-5" 18000).clock beforeCalendar.nodeResolution
      beforeCalendar.start beforeCalendar.stop = _ from hdays]
    decide

/-! ## §2. Entities without data. -/

section Silent

variable {clock : Clock} {request : Request α} {data : Entity → Int → Option α}

/-- An entity that has nothing to present in the range has no node values. -/
theorem nodeValue_of_silent {data : Int → Option α}
    (h : ∀ t, request.start ≤ t → t ≤ request.stop → request.padding.keep (data t) = none)
    (b : Int) : nodeValue clock request data b = none := by
  have hgather : (Int.range request.start (request.stop + 1)).filterMap (fun t =>
      if bucketKey clock request.nodeResolution t = b then request.padding.keep (data t)
      else none) = [] := by
    refine List.filterMap_eq_nil_iff.2 fun t ht => ?_
    obtain ⟨hstart, hstop⟩ := mem_closedRange.1 ht
    rw [h t hstart hstop]
    split <;> rfl
  rw [nodeValue, hgather]
  rfl

theorem keep_nodeValue (clock : Clock) (request : Request α) (data : Int → Option α) (b : Int) :
    request.padding.keep (nodeValue clock request data b) = nodeValue clock request data b :=
  Padding.keep_keep _ _

/-- **One entity is combined like several,** where dividing by one changes nothing: the reduction of
one value is the value. -/
theorem combinedValue_eq (hone : ∀ x : α, x / Quantity.ofCount 1 = x) (entities : List Entity)
    (b : Int) :
    combinedValue clock request data entities b =
      request.padding.keep (request.combineAggregation.reduce
        (entities.filterMap fun e => nodeValue clock request (data e) b)) := by
  match entities with
  | [] => rfl
  | [e] =>
      have hlist : ([e].filterMap fun e => nodeValue clock request (data e) b) =
          (nodeValue clock request (data e) b).toList := by
        cases h : nodeValue clock request (data e) b <;> simp [h]
      rw [hlist, reduce_toList hone, keep_nodeValue]
      rfl
  | e :: f :: es => rfl

/-- **A silent entity adds nothing** to the combined values. -/
theorem combinedValue_insert (hone : ∀ x : α, x / Quantity.ofCount 1 = x) {u : Entity}
    (hu : ∀ t, request.start ≤ t → t ≤ request.stop → request.padding.keep (data u t) = none)
    (es fs : List Entity) (b : Int) :
    combinedValue clock request data (es ++ u :: fs) b =
      combinedValue clock request data (es ++ fs) b := by
  have hcons : (u :: fs).filterMap (fun e => nodeValue clock request (data e) b) =
      fs.filterMap fun e => nodeValue clock request (data e) b :=
    List.filterMap_cons_none (nodeValue_of_silent hu b)
  rw [combinedValue_eq hone, combinedValue_eq hone, List.filterMap_append, List.filterMap_append,
    hcons]

end Silent

/-- What is yielded for entities depends on their combined values alone. -/
theorem retrieve_entities_congr {s : SampleStore α} (hs : s.Tidy) (clock : Clock)
    (request : Request α) {es fs : List Entity} (hes : es ≠ []) (hfs : fs ≠ [])
    (h : ∀ b, combinedValue clock request (s.seen request.start request.stop) es b =
      combinedValue clock request (s.seen request.start request.stop) fs b) :
    Plan.retrieve ⟨s.source, clock⟩ (request.asking (.entities es)) =
      Plan.retrieve ⟨s.source, clock⟩ (request.asking (.entities fs)) := by
  by_cases hrange : request.start < request.stop
  · obtain ⟨e, es, rfl⟩ := List.exists_cons_of_ne_nil hes
    obtain ⟨f, fs, rfl⟩ := List.exists_cons_of_ne_nil hfs
    obtain ⟨u, hu, hpoints⟩ := Plan.retrieve_entities hs clock
      (request.asking (.entities (e :: es))) rfl hrange
    obtain ⟨v, hv, hpoints'⟩ := Plan.retrieve_entities hs clock
      (request.asking (.entities (f :: fs))) rfl hrange
    have hanswer : ∀ k,
        answer clock request (s.seen request.start request.stop) (e :: es) k =
          answer clock request (s.seen request.start request.stop) (f :: fs) k := by
      intro k
      simp only [answer, resultValue, h]
    have hsame : u = v := Std.ExtTreeMap.ext_getElem? fun {k} =>
      (hpoints k).trans ((hanswer k).trans (hpoints' k).symm)
    rw [hu, hv, hsame]
  · have hempty : request.stop ≤ request.start := Int.not_lt.1 hrange
    rw [Plan.retrieve_of_le s clock (request.asking (.entities es)) hempty,
      Plan.retrieve_of_le s clock (request.asking (.entities fs)) hempty]
    rfl

/-- **An entity that has nothing but missing samples in the range changes nothing,** wherever it
stands among the entities of a request and however they are combined. -/
theorem retrieve_insert (clock : Clock) (ws : List (Write α)) (request : Request α)
    (es fs : List Entity) (u : Entity) (hone : ∀ x : α, x / Quantity.ofCount 1 = x)
    (hne : es ++ fs ≠ [])
    (hsilent : ∀ t, request.start ≤ t → t ≤ request.stop →
      request.padding.keep (latestWrite ws u t).join = none) :
    Plan.retrieve ⟨(SampleStore.ofWrites ws).source, clock⟩
        (request.asking (.entities (es ++ u :: fs))) =
      Plan.retrieve ⟨(SampleStore.ofWrites ws).source, clock⟩
        (request.asking (.entities (es ++ fs))) ∧
    (request.start < request.stop → ∃ series : Series α,
      Plan.retrieve ⟨(SampleStore.ofWrites ws).source, clock⟩
        (request.asking (.entities (es ++ fs))) = .ok (.series series)) := by
  constructor
  · refine retrieve_entities_congr (tidy_ofWrites ws) clock request (by simp) hne ?_
    refine combinedValue_insert hone ?_ es fs
    intro t hstart hstop
    rw [SampleStore.seen, SampleStore.held_ofWrites]
    split
    · exact hsilent t hstart hstop
    · rfl
  · intro hrange
    obtain ⟨e, rest, heq⟩ := List.exists_cons_of_ne_nil hne
    rw [heq]
    obtain ⟨series, hseries, -⟩ := Plan.retrieve_entities (tidy_ofWrites ws) clock
      (request.asking (.entities (e :: rest))) rfl hrange
    exact ⟨series, hseries⟩

/-- Samples of an entity, and of another one whose only value up to the end was marked as missing
later. -/
def missingSamples : List (Write ℚ) :=
  [.value ⟨"1", "2"⟩ 80 9, .value ⟨"1", "1"⟩ 70 5, .missing ⟨"1", "2"⟩ 80,
    .value ⟨"1", "2"⟩ 200 4]

/-- Averages of one entity after one that has nothing but missing samples in the range. -/
theorem retrieve_insert_missing :
    ∃ series : Series ℚ,
      Plan.retrieve ⟨(SampleStore.ofWrites missingSamples).source, Zone.utc.clock⟩
        (minuteAverages.asking (.entities [⟨"1", "2"⟩, ⟨"1", "1"⟩])) = .ok (.series series) ∧
      series[(60 : Int)]? = some 5 ∧ series[(120 : Int)]? = some 0 := by
  have hsilent : ∀ t : Int, 30 ≤ t → t ≤ 125 → (⟨0⟩ : Padding ℚ).keep
      (latestWrite missingSamples ⟨"1", "2"⟩ t).join = none := by
    intro t _ hstop
    have hlater : ¬ (200 : Int) = t := by omega
    by_cases ht : (80 : Int) = t
    · simp [missingSamples, latestWrite, Write.tells, hlater, ht]
    · simp [missingSamples, latestWrite, Write.tells, hlater, ht]
  have hinsert := retrieve_insert Zone.utc.clock missingSamples minuteAverages [] [⟨"1", "1"⟩]
    ⟨"1", "2"⟩ div_one_rational (by simp) hsilent
  obtain ⟨series, hseries, hpoints⟩ := Plan.retrieve_entities (tidy_ofWrites missingSamples)
    Zone.utc.clock (minuteAverages.asking (.entities [⟨"1", "1"⟩])) rfl (by decide)
  refine ⟨series, hinsert.1.trans hseries, ?_, ?_⟩
  · exact (hpoints 60).trans (by decide +kernel)
  · exact (hpoints 120).trans (by decide +kernel)

end MetricQuery
