/-
  MetricQuery.Proofs.Retrieval.Split
  ──────────────────────────────────
  **A RANGE THAT IS CUT IN TWO.**

  A request over a range can be answered in two parts, if the range is cut where
  buckets start.  Two ranges look alike at a set of instants that no bucket
  leaves and where their grids have the same keys; then every stage over the one
  range yields there what it yields over the other.  A cut gives two such sets,
  the instants before it and those from it on.

    • `LookAlike`           — ranges that look alike at a set of instants,
    • `eqOn_sourceSeries`, `eqOn_retrieve` — what is retrieved over them is the same there,
    • `Cuts`                — buckets and grids that do not reach across an instant,
    • `retrieve_of_cuts`    — the result over a range is those over its parts,
    • `retrieve_split`      — requests in a zone that never changes,
    • `last_day_is_lost`    — the end of the calendar, where a step leaves it.
-/
import MetricQuery.Proofs.Retrieval.Formulas
import MetricQuery.Proofs.Time.Fixed

namespace MetricQuery

variable {α : Type}

/-! ## §1. Ranges that look alike. -/

/-- At the instants of a set two ranges look alike: no bucket leaves the set, and the two grids have
the same keys in it. -/
structure LookAlike (clock : Clock) (r : Resolution) (instants : Set Int)
    (start stop start' stop' : Int) : Prop where
  closed : ∀ t, bucketKey clock r t ∈ instants → t ∈ instants
  grid : ∀ k ∈ instants,
    k ∈ bucketKeys clock r start stop ↔ k ∈ bucketKeys clock r start' stop'

/-- Two series are the same at the instants of a set. -/
def Series.EqOn (instants : Set Int) (s t : Series α) : Prop :=
  ∀ k ∈ instants, s[k]? = t[k]?

/-- The same request over another range. -/
def Request.over (request : Request α) (start stop : Int) : Request α :=
  { request with start, stop }

variable [Quantity α]

/-- What several series have in common at a set of instants, their combinations have. -/
theorem Series.EqOn.combine {instants : Set Int} {β : Type} {f g : β → Series α}
    (h : ∀ x, (f x).EqOn instants (g x)) (agg : Aggregation) (pad : Padding α) (list : List β) :
    (Series.combine agg pad (list.map f)).EqOn instants (Series.combine agg pad (list.map g)) := by
  intro k hk
  rw [getElem?_combine, getElem?_combine, List.filterMap_map, List.filterMap_map]
  congr 1
  refine List.filterMap_congr fun x _ => ?_
  show pad.keep (f x)[k]? = pad.keep (g x)[k]?
  rw [h x k hk]

namespace Plan

variable {plan : Plan α} {request : Request α} {instants : Set Int}
  {start stop start' stop' : Int} {samples samples' : Entity → Series α}

/-- **Series that are the same at a set of instants** are so on the grids of ranges that look alike
there. -/
theorem eqOn_regrid {r : Resolution} (agg : Aggregation) {s t : Series α}
    (h : LookAlike plan.clock r instants start stop start' stop') (hs : s.EqOn instants t) :
    (plan.regrid (request.over start stop) r agg s).EqOn instants
      (plan.regrid (request.over start' stop') r agg t) := by
  intro k hk
  -- The bucket of the key stays within the set, and so do the values that it gathers.
  have hrollup : (s.rollup plan.clock r agg request.padding)[k]? =
      (t.rollup plan.clock r agg request.padding)[k]? := by
    refine Series.getElem?_rollup_congr plan.clock r agg fun u hu => ?_
    rw [hs u (h.closed u (hu ▸ hk))]
  rw [getElem?_regrid, getElem?_regrid]
  exact if_congr (h.grid k hk)
    (congrArg (fun v => some (v.getD request.padding.value)) hrollup) rfl

section Source

variable
  (h : LookAlike plan.clock request.nodeResolution instants start stop start' stop')
  (hsamples : ∀ e, (samples e).EqOn instants (samples' e))

include h hsamples

theorem eqOn_combinedSeries (es : List Entity) :
    (plan.combinedSeries (request.over start stop) samples es).EqOn instants
      (plan.combinedSeries (request.over start' stop') samples' es) := by
  have hnode : ∀ e, (plan.nodeSeries (request.over start stop) (samples e)).EqOn instants
      (plan.nodeSeries (request.over start' stop') (samples' e)) :=
    fun e => eqOn_regrid _ h (hsamples e)
  match es with
  | [] => exact Series.EqOn.combine hnode _ _ []
  | [e] => exact hnode e
  | e :: f :: es => exact Series.EqOn.combine hnode _ _ (e :: f :: es)

theorem alike_variableValue (options : Options) :
    Value.Alike request.padding instants
      (plan.variableValue (request.over start stop) samples options)
      (plan.variableValue (request.over start' stop') samples' options) := by
  unfold variableValue
  cases entityOf options with
  | error fault => rfl
  | ok e =>
      show Value.Alike _ _ (aggregationOf options request.nodeAggregation >>= _)
        (aggregationOf options request.nodeAggregation >>= _)
      cases aggregationOf options request.nodeAggregation with
      | error fault => rfl
      | ok agg =>
          intro k hk
          exact congrArg (fun v => v.getD request.padding.value)
            (eqOn_regrid agg h (hsamples e) k hk)

/-- The series of a formula over ranges that look alike. -/
theorem eqOn_formulaSeries {e : Expr α} {s : Series α}
    (hs : plan.formulaSeries (request.over start stop) samples e = .ok s) :
    ∃ t, plan.formulaSeries (request.over start' stop') samples' e = .ok t ∧
      s.EqOn instants t := by
  have halike := Expr.evaluate_alike (e := e) fun o _ => alike_variableValue h hsamples o
  unfold formulaSeries at hs ⊢
  -- The formula has a value over both ranges, with the same readings at the instants of the set.
  cases hv : e.evaluate request.padding (plan.variableValue (request.over start stop) samples) with
  | error fault =>
      rw [show e.evaluate (request.over start stop).padding _ = _ from hv] at hs
      cases hs
  | ok v =>
      rw [show e.evaluate (request.over start stop).padding _ = _ from hv] at hs
      cases hs
      cases hw : e.evaluate request.padding
          (plan.variableValue (request.over start' stop') samples') with
      | error fault =>
          rw [hv, hw] at halike
          cases halike
      | ok w =>
          rw [hv, hw] at halike
          rw [show e.evaluate (request.over start' stop').padding _ = _ from hw]
          refine ⟨_, rfl, eqOn_regrid _ h fun k hk => ?_⟩
          rw [getElem?_spread_evaluate hv, getElem?_spread_evaluate hw]
          exact if_congr (h.grid k hk) (congrArg some (halike k hk)) rfl

/-- **The series of a source** over ranges that look alike. -/
theorem eqOn_sourceSeries {source : Source} {s : Series α}
    (hs : plan.sourceSeries (request.over start stop) samples source = .ok s) :
    ∃ t, plan.sourceSeries (request.over start' stop') samples' source = .ok t ∧
      s.EqOn instants t := by
  match source with
  | .entities [] => cases hs
  | .entities (e :: es) =>
      cases hs
      exact ⟨_, rfl, eqOn_combinedSeries h hsamples (e :: es)⟩
  | .formula text =>
      change (parse text).bind _ = .ok s at hs
      show ∃ t, (parse text).bind _ = .ok t ∧ _
      cases hparse : (parse text : Except Fault (Expr α)) with
      | error fault =>
          rw [hparse] at hs
          cases hs
      | ok e =>
          rw [hparse] at hs
          exact eqOn_formulaSeries h hsamples hs

end Source

omit [Quantity α] in
/-- The fetches over two ranges are the same where they reach the same instants. -/
theorem eqOn_samples {s : SampleStore α} (hs : s.Tidy) (e : Entity)
    (hreach : ∀ t ∈ instants, InReach start stop t ↔ InReach start' stop' t) :
    (s.samples e start stop).EqOn instants (s.samples e start' stop') := by
  intro t ht
  rw [getElem?_samples hs, getElem?_samples hs]
  exact if_congr (hreach t ht) rfl rfl

/-- **What is retrieved over two ranges** that look alike at a set of instants is the same there. -/
theorem eqOn_retrieve {s : SampleStore α} (hs : s.Tidy) {clock : Clock} {request : Request α}
    (hrange : start' < stop')
    (hreach : ∀ t ∈ instants, InReach start stop t ↔ InReach start' stop' t)
    (hnode : LookAlike clock request.nodeResolution instants start stop start' stop')
    (hresult : LookAlike clock request.resultResolution instants start stop start' stop')
    {frame : Frame α}
    (hframe : Plan.retrieve ⟨s.source, clock⟩ (request.over start stop) = .ok frame) :
    ∃ u v, frame = .series u ∧
      Plan.retrieve ⟨s.source, clock⟩ (request.over start' stop') = .ok (.series v) ∧
      u.EqOn instants v ∧
      ∀ k, k ∈ v ↔ k ∈ bucketKeys clock request.resultResolution start' stop' := by
  rw [retrieve_eq, sourceOutcome_source] at hframe
  split at hframe
  · cases hframe
  · rw [retrieve_of_lt s clock (request.over start' stop') hrange]
    cases hsource : Plan.sourceSeries ⟨s.source, clock⟩ (request.over start stop)
        (inRange s (request.over start stop)) request.source with
    | error fault =>
        rw [show (request.over start stop).source = request.source from rfl, hsource] at hframe
        cases hframe
    | ok h =>
        rw [show (request.over start stop).source = request.source from rfl, hsource] at hframe
        cases hframe
        obtain ⟨h', hpart, heq⟩ := eqOn_sourceSeries hnode
          (fun e => eqOn_samples hs e hreach) hsource
        rw [show Plan.sourceSeries ⟨s.source, clock⟩ (request.over start' stop')
          (inRange s (request.over start' stop')) (request.over start' stop').source = .ok h' from
            hpart]
        exact ⟨_, _, rfl, rfl, eqOn_regrid _ hresult heq, fun k => mem_regrid_iff⟩

end Plan

/-! ## §2. Cuts. -/

/-- No bucket reaches across `b`, and the grid of the range is those of its two parts. -/
structure Cuts (clock : Clock) (r : Resolution) (a b c : Int) : Prop where
  side : ∀ t, bucketKey clock r t < b ↔ t < b
  grid : bucketKeys clock r a c = bucketKeys clock r a b ++ bucketKeys clock r b c

section Cuts

variable {clock : Clock} {r : Resolution} {a b c k : Int}

theorem Cuts.le_of_mem (h : Cuts clock r a b c) (hk : k ∈ bucketKeys clock r b c) : b ≤ k := by
  have hkey : ¬ bucketKey clock r b < b := fun hlt => Int.lt_irrefl b ((h.side b).1 hlt)
  rw [bucketKeys_eq] at hk
  have hle := le_of_mem_bucketKeysFrom hk
  rw [firstKey, if_neg hkey] at hle
  omega

/-- Before the cut the range looks like its first part. -/
theorem Cuts.before (h : Cuts clock r a b c) : LookAlike clock r {t | t < b} a c a b := by
  refine ⟨fun t ht => (h.side t).1 ht, ?_⟩
  intro k hk
  rw [h.grid, List.mem_append]
  refine or_iff_left fun hright => ?_
  have hle := h.le_of_mem hright
  exact Int.not_lt.2 hle hk

/-- From the cut on the range looks like its second part. -/
theorem Cuts.after (h : Cuts clock r a b c) : LookAlike clock r {t | b ≤ t} a c b c := by
  constructor
  · intro t ht
    exact Int.not_lt.1 fun hlt => Int.not_lt.2 ht ((h.side t).2 hlt)
  · intro k hk
    rw [h.grid, List.mem_append]
    refine or_iff_right fun hleft => ?_
    exact Int.not_lt.2 hk (lt_of_mem_bucketKeys hleft)

/-- **The result over a range that is cut** is the disjoint union of the results over its parts. -/
theorem retrieve_of_cuts {s : SampleStore α} (hs : s.Tidy) {request : Request α}
    (ha : firstMidnight ≤ a) (hab : a < b) (hbc : b < c)
    (hnode : Cuts clock request.nodeResolution a b c)
    (hresult : Cuts clock request.resultResolution a b c) {frame : Frame α}
    (hframe : Plan.retrieve ⟨s.source, clock⟩ (request.over a c) = .ok frame) :
    ∃ u left right, frame = .series u ∧
      Plan.retrieve ⟨s.source, clock⟩ (request.over a b) = .ok (.series left) ∧
      Plan.retrieve ⟨s.source, clock⟩ (request.over b c) = .ok (.series right) ∧
      (∀ k : Int, u[k]? = left[k]?.or right[k]?) ∧ ∀ k : Int, ¬ (k ∈ left ∧ k ∈ right) := by
  have hb : firstMidnight ≤ b := Int.le_trans ha (Int.le_of_lt hab)
  obtain ⟨u, left, rfl, hleft, hbefore, hleftKeys⟩ := Plan.eqOn_retrieve hs hab
    (fun t ht => by
      have hlt : t < b := ht
      rw [inReach_iff (.inl ha), inReach_iff (.inl ha)]
      omega) hnode.before hresult.before hframe
  obtain ⟨_, right, heq, hright, hafter, hrightKeys⟩ := Plan.eqOn_retrieve hs hbc
    (fun t ht => by
      have hle : b ≤ t := ht
      rw [inReach_iff (.inl ha), inReach_iff (.inl hb)]
      omega) hnode.after hresult.after hframe
  cases heq
  -- The keys of the first result are before the cut, those of the second one are not.
  have hleftLt : ∀ k, k ∈ left → k < b := fun k hk => lt_of_mem_bucketKeys ((hleftKeys k).1 hk)
  have hrightLe : ∀ k, k ∈ right → b ≤ k := fun k hk => hresult.le_of_mem ((hrightKeys k).1 hk)
  refine ⟨u, left, right, rfl, hleft, hright, ?_, ?_⟩
  · intro k
    by_cases hk : k < b
    · have hnone : right[k]? = none := Std.ExtTreeMap.getElem?_eq_none fun hmem =>
        Int.not_lt.2 (hrightLe k hmem) hk
      rw [hbefore k hk, hnone, Option.or_none]
    · have hnone : left[k]? = none := Std.ExtTreeMap.getElem?_eq_none fun hmem =>
        hk (hleftLt k hmem)
      rw [hafter k (Int.not_lt.1 hk), hnone, Option.none_or]
  · rintro k ⟨hl, hr⟩
    exact Int.not_lt.2 (hrightLe k hr) (hleftLt k hl)

end Cuts

/-! ## §3. Zones that never change. -/

theorem Zone.Parts.cuts {name : String} {offset : Int} {r : Resolution} {a b c : Int}
    (hoffset : -secondsPerDay < offset) (ha : calendarFirst ≤ a) (hab : a < b) (hbc : b ≤ c)
    (hb : b ≤ calendarLast) (h : (Zone.fixed name offset).Parts r b) :
    Cuts (Zone.fixed name offset).clock r a b c :=
  ⟨Zone.bucketKey_fixed_lt_iff (inCalendar_iff.2 ⟨by omega, hb⟩) h.1,
    Zone.bucketKeys_fixed_append hoffset ha hab hbc hb h⟩

/-- **A request in a zone that never changes can be answered in two parts,** if the range is cut at
an instant that starts a bucket of either resolution: where the whole request succeeds, so do the
parts, and its result is the disjoint union of theirs.  Half a bucket after the cut there have to be
dates, which goes without saying where the offset is a number of whole buckets. -/
theorem retrieve_split (name : String) (offset : Int) (hoffset : -secondsPerDay < offset)
    (ws : List (Write α)) (request : Request α) (a b c : Int) (ha : calendarFirst ≤ a)
    (hab : a < b) (hbc : b < c) (hc : c ≤ calendarLast)
    (hnode : (Zone.fixed name offset).Parts request.nodeResolution b)
    (hresult : (Zone.fixed name offset).Parts request.resultResolution b) (frame : Frame α)
    (hframe : Plan.retrieve ⟨(SampleStore.ofWrites ws).source, (Zone.fixed name offset).clock⟩
      (request.over a c) = .ok frame) :
    ∃ u left right, frame = .series u ∧
      Plan.retrieve ⟨(SampleStore.ofWrites ws).source, (Zone.fixed name offset).clock⟩
        (request.over a b) = .ok (.series left) ∧
      Plan.retrieve ⟨(SampleStore.ofWrites ws).source, (Zone.fixed name offset).clock⟩
        (request.over b c) = .ok (.series right) ∧
      (∀ k : Int, u[k]? = left[k]?.or right[k]?) ∧ ∀ k : Int, ¬ (k ∈ left ∧ k ∈ right) :=
  retrieve_of_cuts (tidy_ofWrites ws) (Int.le_trans (by decide) ha) hab hbc
    (hnode.cuts hoffset ha hab (Int.le_of_lt hbc) (by omega))
    (hresult.cuts hoffset ha hab (Int.le_of_lt hbc) (by omega)) hframe

/-- Samples around the hour, and one right at it. -/
def hourSamples : List (Write ℚ) :=
  [.value ⟨"1", "1"⟩ 3590 4, .value ⟨"1", "1"⟩ 3600 5, .value ⟨"1", "1"⟩ 3650 2]

/-- A cut at a sample, which both fetches see and the second result alone counts. -/
theorem retrieve_split_minutes :
    ∃ u left right : Series ℚ,
      Plan.retrieve ⟨(SampleStore.ofWrites hourSamples).source,
        (Zone.fixed "Etc/GMT-5" 18000).clock⟩ ((minuteSums [⟨"1", "1"⟩] 0 0).over 3500 3650) =
          .ok (.series u) ∧
      Plan.retrieve ⟨(SampleStore.ofWrites hourSamples).source,
        (Zone.fixed "Etc/GMT-5" 18000).clock⟩ ((minuteSums [⟨"1", "1"⟩] 0 0).over 3500 3600) =
          .ok (.series left) ∧
      Plan.retrieve ⟨(SampleStore.ofWrites hourSamples).source,
        (Zone.fixed "Etc/GMT-5" 18000).clock⟩ ((minuteSums [⟨"1", "1"⟩] 0 0).over 3600 3650) =
          .ok (.series right) ∧
      (∀ k : Int, u[k]? = left[k]?.or right[k]?) ∧ (∀ k : Int, ¬ (k ∈ left ∧ k ∈ right)) ∧
      u[(3540 : Int)]? = some 4 ∧ u[(3600 : Int)]? = some 7 := by
  obtain ⟨u, hframe, hpoints⟩ := Plan.retrieve_entities (tidy_ofWrites hourSamples)
    (Zone.fixed "Etc/GMT-5" 18000).clock ((minuteSums [⟨"1", "1"⟩] 0 0).over 3500 3650) rfl
    (by decide)
  obtain ⟨_, left, right, heq, hleft, hright, hunion, hdisjoint⟩ :=
    retrieve_split "Etc/GMT-5" 18000 (by decide) hourSamples (minuteSums [⟨"1", "1"⟩] 0 0) 3500
      3600 3650 (by decide) (by decide) (by decide) (by decide) (by decide) (by decide) _ hframe
  cases heq
  refine ⟨u, left, right, hframe, hleft, hright, hunion, hdisjoint, ?_, ?_⟩
  · exact (hpoints 3540).trans (by decide +kernel)
  · exact (hpoints 3600).trans (by decide +kernel)

/-- Sums by the day. -/
def daySums : Request ℚ :=
  { minuteSums [⟨"1", "1"⟩] 0 0 with nodeResolution := .day, resultResolution := .day }

/-- **The last day of the calendar is lost** twelve hours behind universal time, unless a range
begins with it: the step to it ends outside of the calendar, and is one by universal time. -/
theorem last_day_is_lost :
    ∃ (ws : List (Write ℚ)) (u left right : Series ℚ),
      Plan.retrieve ⟨(SampleStore.ofWrites ws).source,
        (Zone.fixed "Etc/GMT+12" (-43200)).clock⟩ (daySums.over 8210266833599 8210266833601) =
          .ok (.series u) ∧
      Plan.retrieve ⟨(SampleStore.ofWrites ws).source,
        (Zone.fixed "Etc/GMT+12" (-43200)).clock⟩ (daySums.over 8210266833599 8210266833600) =
          .ok (.series left) ∧
      Plan.retrieve ⟨(SampleStore.ofWrites ws).source,
        (Zone.fixed "Etc/GMT+12" (-43200)).clock⟩ (daySums.over 8210266833600 8210266833601) =
          .ok (.series right) ∧
      bucketKey (Zone.fixed "Etc/GMT+12" (-43200)).clock .day 8210266833600 = 8210266833600 ∧
      inCalendar 8210266833601 = true ∧
      u[(8210266833600 : Int)]? = none ∧ right[(8210266833600 : Int)]? = some 5 := by
  have htidy := tidy_ofWrites [Write.value ⟨"1", "1"⟩ 8210266833600 (5 : ℚ)]
  obtain ⟨u, hu, hpoints⟩ := Plan.retrieve_entities htidy
    (Zone.fixed "Etc/GMT+12" (-43200)).clock
    (daySums.over 8210266833599 8210266833601) rfl (by decide)
  obtain ⟨left, hleft, -⟩ := Plan.retrieve_entities htidy
    (Zone.fixed "Etc/GMT+12" (-43200)).clock
    (daySums.over 8210266833599 8210266833600) rfl (by decide)
  obtain ⟨right, hright, hpoints'⟩ := Plan.retrieve_entities htidy
    (Zone.fixed "Etc/GMT+12" (-43200)).clock
    (daySums.over 8210266833600 8210266833601) rfl (by decide)
  refine ⟨_, u, left, right, hu, hleft, hright, by decide, by decide, ?_, ?_⟩
  · exact (hpoints 8210266833600).trans (by decide +kernel)
  · exact (hpoints' 8210266833600).trans (by decide +kernel)

end MetricQuery
