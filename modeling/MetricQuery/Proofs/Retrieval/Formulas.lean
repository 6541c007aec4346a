/-
  MetricQuery.Proofs.Retrieval.Formulas
  ─────────────────────────────────────
  **WHAT A REQUEST YIELDS.**

  A request is answered in one go: its pipeline is assembled and run on nothing.
  The outcome can be said without the pipeline, whatever the source of samples
  answers.  The first steps yield one series, of entities or of a formula, or
  they fail; the last steps roll that series up and lay it on the result grid.

    • `Plan.retrieve`       — the outcome of a request,
    • `outcome_evaluateWith` — a formula is evaluated on the outcomes of its variables,
    • `Plan.variableValue`, `Plan.formulaSeries` — variables and formulas on samples,
    • `Plan.variableOutcome`, `Plan.formulaOutcome` — the same on whatever is answered,
    • `retrieve_eq`         — what a request yields,
    • `retrieve_entities`   — what a request for entities yields,
    • `getElem?_spread_evaluate` — a formula has a value at each key of the node grid.
-/
import MetricQuery.Proofs.Formula.Pointwise
import MetricQuery.Proofs.Retrieval.Entities

namespace MetricQuery

variable {α : Type} [Quantity α]

/-! ## §1. Requests as a whole. -/

/-- What a request yields: the outcome of its pipeline, if the request is accepted. -/
def Plan.retrieve (plan : Plan α) (request : Request α) : Except Fault (Frame α) :=
  (plan.numeric request).bind fun p => (p.run .empty).outcome

omit [Quantity α] in
theorem Run.outcome_quiet {β : Type} (r : Run α β) : r.quiet.outcome = r.outcome := rfl

omit [Quantity α] in
/-- An attempt that depends on another one succeeds only after it. -/
theorem exists_of_bind_eq_ok {β γ : Type} {x : Except Fault β} {f : β → Except Fault γ} {c : γ}
    (h : x >>= f = .ok c) : ∃ b, x = .ok b ∧ f b = .ok c := by
  cases x with
  | error fault => cases h
  | ok b => exact ⟨b, rfl, h⟩

/-! ## §2. The value of a formula on samples. -/

/-- **A formula is evaluated on the outcomes of its variables;** their records do not matter. -/
theorem Expr.outcome_evaluateWith (pad : Padding α) (resolve : Options → Run α (Value α))
    (e : Expr α) :
    (e.evaluateWith pad resolve).outcome = e.evaluate pad fun o => (resolve o).outcome := by
  induction e with
  | number v => rfl
  | «variable» options => rfl
  | binary left op right ihl ihr =>
      show ((left.evaluateWith pad resolve).bind fun l =>
        (right.evaluateWith pad resolve).bind fun r => .pure (Value.binary op pad l r)).outcome = _
      rw [Run.outcome_bind, ihl]
      simp only [Run.outcome_bind, ihr]
      rfl
  | unary sign operand ih =>
      show ((operand.evaluateWith pad resolve).bind fun v =>
        .pure (Value.unary sign pad v)).outcome = _
      rw [Run.outcome_bind, ih]
      rfl

/-- A value as a series: a number is spread over the grid. -/
def Value.spread (grid : List Int) : Value α → Series α
  | .scalar v => Series.tabulate grid fun _ => v
  | .series s => s

omit [Quantity α] in
/-- **A value on a grid is spread over the grid:** it has a reading at each of its keys and nothing
elsewhere. -/
theorem Value.getElem?_spread {pad : Padding α} {grid : List Int} {v : Value α}
    (h : v.OnGrid grid) (k : Int) :
    (v.spread grid)[k]? = if k ∈ grid then some (v.reading pad k) else none := by
  cases v with
  | scalar x => exact Series.getElem?_tabulate grid (fun _ => x) k
  | series s =>
      show s[k]? = if k ∈ grid then some (s[k]?.getD pad.value) else none
      by_cases hk : k ∈ s
      · rw [if_pos ((h k).1 hk), Std.ExtTreeMap.getElem?_eq_some_getElem hk]
        rfl
      · rw [if_neg (fun hg => hk ((h k).2 hg)), Std.ExtTreeMap.getElem?_eq_none hk]

omit [Quantity α] in
/-- Its keys are those of the grid. -/
theorem Value.mem_spread_iff {grid : List Int} {v : Value α} (h : v.OnGrid grid) {k : Int} :
    k ∈ v.spread grid ↔ k ∈ grid := by
  cases v with
  | scalar x => exact Series.mem_tabulate_iff
  | series s => exact h k

namespace Plan

/-- What a variable stands for, given the samples of each entity: those of its entity, rolled up by
its own aggregation and laid on the node grid. -/
def variableValue (plan : Plan α) (request : Request α) (samples : Entity → Series α)
    (options : Options) : Except Fault (Value α) := do
  let e ← entityOf options
  let agg ← aggregationOf options request.nodeAggregation
  pure (.series (plan.regrid request request.nodeResolution agg (samples e)))

/-- The series of a formula: its value, rolled up and laid on the node grid like samples. -/
def formulaSeries (plan : Plan α) (request : Request α) (samples : Entity → Series α)
    (e : Expr α) : Except Fault (Series α) :=
  (e.evaluate request.padding (plan.variableValue request samples)).map fun v =>
    plan.nodeSeries request (v.spread (plan.grid request request.nodeResolution))

/-- The series of a source. -/
def sourceSeries (plan : Plan α) (request : Request α) (samples : Entity → Series α) :
    Source → Except Fault (Series α)
  | .entities [] => .error (.configuration .noEntity)
  | .entities (e :: es) => .ok (plan.combinedSeries request samples (e :: es))
  | .formula text => (parse text).bind fun e => plan.formulaSeries request samples e

/-- The samples of each entity in the range of a request, its end included. -/
def inRange (s : SampleStore α) (request : Request α) (e : Entity) : Series α :=
  s.samples e request.start request.stop

/-! ## §3. From the pipeline to the series. -/

/-- The value of a variable on whatever the source answers, or the failure in its place. -/
def variableOutcome (plan : Plan α) (request : Request α) (options : Options) :
    Except Fault (Value α) := do
  let e ← entityOf options
  let agg ← aggregationOf options request.nodeAggregation
  let s ← plan.fetched request e
  pure (.series (plan.regrid request request.nodeResolution agg s))

/-- **The outcome of a variable.** -/
theorem outcome_resolve (plan : Plan α) (request : Request α) (options : Options) :
    ((plan.scope request).resolve options).outcome = plan.variableOutcome request options := by
  rw [Scope.resolve, Run.outcome_bind]
  show (Scope.pipelineFor _ options).bind _ = _
  unfold Scope.pipelineFor variableOutcome
  cases entityOf options with
  | error fault => rfl
  | ok e =>
      show (aggregationOf options request.nodeAggregation >>= _).bind _ =
        (aggregationOf options request.nodeAggregation >>= _)
      cases aggregationOf options request.nodeAggregation with
      | error fault => rfl
      | ok agg =>
          show (Run.bind (Run.quiet _) _).outcome = (plan.fetched request e).bind _
          rw [Run.outcome_bind, Run.outcome_quiet, outcome_runSteps_cons, outcome_step_stage]
          show (((Stage.find plan.source e request.start request.stop).run .empty).outcome.bind
            _).bind _ = _
          rw [outcome_fetch]
          cases plan.fetched request e with
          | error fault => rfl
          | ok s =>
              show (Pipeline.run [.stage (.rollupTime plan.clock request.nodeResolution agg
                request.padding), .stage (plan.padStage request request.nodeResolution)]
                (.series s)).outcome.bind _ = _
              rw [outcome_regrid]
              rfl

/-- The steps for a formula that parses: the stage that evaluates it, and its series on the grid. -/
theorem formulaHead_of_parse {plan : Plan α} {request : Request α} {text : String} {e : Expr α}
    (h : parse text = .ok e) :
    plan.formulaHead request text = .ok [.stage (plan.formulaStage request e),
      .stage (plan.nodeRollup request), .stage (plan.padStage request request.nodeResolution)] := by
  rw [formulaHead, h]
  rfl

/-- The outcome of the stage that evaluates a formula, on any input. -/
theorem outcome_formulaStage (plan : Plan α) (request : Request α) (e : Expr α)
    (input : Frame α) : ((plan.formulaStage request e).run input).outcome =
      (e.evaluate request.padding (plan.variableOutcome request)).map fun v =>
        .series (v.spread (plan.grid request request.nodeResolution)) := by
  show (Run.bind (e.evaluateWith _ _) _).outcome = _
  rw [Run.outcome_bind, Expr.outcome_evaluateWith]
  simp only [outcome_resolve]
  cases e.evaluate request.padding (plan.variableOutcome request) with
  | error fault => rfl
  | ok v => cases v <;> rfl

/-- What the first steps of a retrieval of a formula come to, whatever the source answers. -/
def formulaOutcome (plan : Plan α) (request : Request α) (e : Expr α) : Except Fault (Series α) :=
  (e.evaluate request.padding (plan.variableOutcome request)).map fun v =>
    plan.nodeSeries request (v.spread (plan.grid request request.nodeResolution))

/-- **The outcome of the steps for a formula:** its series on the node grid. -/
theorem outcome_formulaSteps (plan : Plan α) (request : Request α) (e : Expr α) :
    (Pipeline.run [.stage (plan.formulaStage request e), .stage (plan.nodeRollup request),
        .stage (plan.padStage request request.nodeResolution)] .empty).outcome =
      (plan.formulaOutcome request e).map .series := by
  rw [outcome_runSteps_cons, outcome_step_stage, outcome_formulaStage, formulaOutcome]
  cases e.evaluate request.padding (plan.variableOutcome request) with
  | error fault => rfl
  | ok v => exact outcome_regrid plan request _ _ _

/-- What the first steps come to, whatever the source answers. -/
def sourceOutcome (plan : Plan α) (request : Request α) : Source → Except Fault (Series α)
  | .entities [] => .error (.configuration .noEntity)
  | .entities (e :: es) => plan.entitiesOutcome request (e :: es)
  | .formula text => (parse text).bind fun e => plan.formulaOutcome request e

/-- On a store they yield the series of the source. -/
theorem sourceOutcome_source (s : SampleStore α) (clock : Clock) (request : Request α)
    (source : Source) :
    Plan.sourceOutcome ⟨s.source, clock⟩ request source =
      Plan.sourceSeries ⟨s.source, clock⟩ request (inRange s request) source := by
  cases source with
  | entities es =>
      cases es with
      | nil => rfl
      | cons e es => exact entitiesOutcome_source s clock request (e :: es)
  -- On a store every fetch succeeds, so the variables have the same values by definition.
  | formula text => rfl

/-- **The outcome of the first steps.** -/
theorem outcome_head (plan : Plan α) (request : Request α) :
    ((plan.head request).bind fun p => (p.run .empty).outcome) =
      (plan.sourceOutcome request request.source).map .series := by
  cases hsource : request.source with
  | entities es =>
      cases es with
      | nil =>
          rw [head, hsource]
          rfl
      | cons e es =>
          obtain ⟨first, hfirst⟩ : ∃ first, plan.head request = .ok first := by
            rw [head, hsource]
            cases es with
            | nil => exact ⟨_, rfl⟩
            | cons f es => exact ⟨_, rfl⟩
          rw [hfirst]
          exact outcome_head_entities hsource hfirst
  | formula text =>
      rw [head, hsource]
      show ((formulaHead _ request text >>= _).bind _) = ((parse text).bind _).map _
      unfold formulaHead
      cases (parse text : Except Fault (Expr α)) with
      | error fault => rfl
      | ok e =>
          show (Pipeline.run [.nested _] Frame.empty).outcome = _
          rw [outcome_runSteps_cons, outcome_step_nested]
          -- Nothing follows the nested steps in the head.
          exact (bind_pure _).trans (outcome_formulaSteps plan request e)

/-- **What a request yields.**  A range that is not empty is looked at first; then the series of the
source is rolled up and laid on the result grid. -/
theorem retrieve_eq (plan : Plan α) (request : Request α) :
    plan.retrieve request =
      if request.stop ≤ request.start then
        .error (.configuration (.emptyRange request.start request.stop))
      else
        (plan.sourceOutcome request request.source).map fun h => .series
          (plan.regrid request request.resultResolution request.resultAggregation h) := by
  have happend : ∀ last : Pipeline α,
      ((plan.head request).bind fun first => (Pipeline.run (first ++ last) .empty).outcome) =
      ((plan.head request).bind fun first =>
        (Pipeline.run first .empty).outcome).bind fun frame => (last.run frame).outcome := by
    intro last
    cases plan.head request with
    | error fault => rfl
    | ok first => exact outcome_runSteps_append first last .empty
  unfold retrieve numeric
  split
  · rfl
  · refine Eq.trans ?_ ((happend [.stage (.rollupTime plan.clock request.resultResolution
      request.resultAggregation request.padding),
      .stage (plan.padStage request request.resultResolution)]).trans ?_)
    · cases plan.head request <;> rfl
    · rw [outcome_head]
      cases plan.sourceOutcome request request.source with
      | error fault => rfl
      | ok h => exact outcome_regrid plan request _ _ h

/-- A request over an empty range is refused, whatever its source. -/
theorem retrieve_of_le (s : SampleStore α) (clock : Clock) (request : Request α)
    (h : request.stop ≤ request.start) :
    Plan.retrieve ⟨s.source, clock⟩ request =
      .error (.configuration (.emptyRange request.start request.stop)) := by
  rw [retrieve_eq, if_pos h]

theorem retrieve_of_lt (s : SampleStore α) (clock : Clock) (request : Request α)
    (h : request.start < request.stop) :
    Plan.retrieve ⟨s.source, clock⟩ request =
      (Plan.sourceSeries ⟨s.source, clock⟩ request (inRange s request) request.source).map
        fun h => .series (Plan.regrid ⟨s.source, clock⟩ request request.resultResolution
          request.resultAggregation h) := by
  rw [retrieve_eq, if_neg (Int.not_le.2 h), sourceOutcome_source]

/-- **A request for entities** over a range that is not empty yields its answer. -/
theorem retrieve_entities {s : SampleStore α} (hs : s.Tidy) (clock : Clock) (request : Request α)
    {e : Entity} {es : List Entity} (hsource : request.source = .entities (e :: es))
    (hrange : request.start < request.stop) :
    ∃ series : Series α, Plan.retrieve ⟨s.source, clock⟩ request = .ok (.series series) ∧
      ∀ k : Int, series[k]? =
        answer clock request (s.seen request.start request.stop) (e :: es) k := by
  refine ⟨_, ?_, getElem?_regrid_combinedSeries hs ⟨s.source, clock⟩ request (e :: es)⟩
  rw [retrieve_of_lt s clock request hrange, hsource]
  rfl

/-! ## §4. Formulas on the node grid. -/

theorem getElem?_regrid (plan : Plan α) (request : Request α) (r : Resolution)
    (agg : Aggregation) (s : Series α) (k : Int) :
    (plan.regrid request r agg s)[k]? =
      if k ∈ plan.grid request r then
        some ((s.rollup plan.clock r agg request.padding)[k]?.getD request.padding.value)
      else none :=
  Series.getElem?_onto _ _ _ k

theorem mem_regrid_iff {plan : Plan α} {request : Request α} {r : Resolution}
    {agg : Aggregation} {s : Series α} {k : Int} :
    k ∈ plan.regrid request r agg s ↔ k ∈ plan.grid request r :=
  Series.mem_onto_iff

/-- What two series present alike, they present alike on a grid. -/
theorem regrid_congr (plan : Plan α) (request : Request α) (r : Resolution) (agg : Aggregation)
    {s t : Series α} (h : ∀ k : Int, request.padding.keep s[k]? = request.padding.keep t[k]?) :
    plan.regrid request r agg s = plan.regrid request r agg t := by
  refine Std.ExtTreeMap.ext_getElem? fun {k} => ?_
  rw [getElem?_regrid, getElem?_regrid,
    Series.getElem?_rollup_congr plan.clock r agg fun u _ => h u]

/-- A series that presents nothing is padding all over the grid. -/
theorem getElem?_regrid_of_keep (plan : Plan α) (request : Request α) (r : Resolution)
    (agg : Aggregation) {s : Series α} (h : ∀ k : Int, request.padding.keep s[k]? = none)
    (k : Int) :
    (plan.regrid request r agg s)[k]? =
      if k ∈ plan.grid request r then some request.padding.value else none := by
  have hnothing : (s.rollup plan.clock r agg request.padding)[k]? = none := by
    rw [Series.getElem?_rollup plan.clock r agg List.Pairwise.nil
      (fun u v hv => by rw [h u] at hv; cases hv)]
    rfl
  rw [getElem?_regrid, hnothing]
  rfl

/-- A variable that has a value on samples has one on the node grid. -/
theorem onGrid_variableValue {plan : Plan α} {request : Request α}
    {samples : Entity → Series α} {options : Options} {v : Value α}
    (h : plan.variableValue request samples options = .ok v) :
    v.OnGrid (plan.grid request request.nodeResolution) := by
  obtain ⟨e, -, h⟩ := exists_of_bind_eq_ok h
  obtain ⟨agg, -, h⟩ := exists_of_bind_eq_ok h
  cases h
  exact fun k => mem_regrid_iff

/-- A variable that has a value on whatever the source answers has one on the node grid. -/
theorem onGrid_variableOutcome {plan : Plan α} {request : Request α} {options : Options}
    {v : Value α} (h : plan.variableOutcome request options = .ok v) :
    v.OnGrid (plan.grid request request.nodeResolution) := by
  obtain ⟨e, -, h⟩ := exists_of_bind_eq_ok h
  obtain ⟨agg, -, h⟩ := exists_of_bind_eq_ok h
  obtain ⟨s, -, h⟩ := exists_of_bind_eq_ok h
  cases h
  exact fun k => mem_regrid_iff

/-- **A formula has a value at each key of the node grid** and nowhere else, whether it is a number
or a series. -/
theorem getElem?_spread_evaluate {plan : Plan α} {request : Request α}
    {samples : Entity → Series α} {e : Expr α} {v : Value α}
    (h : e.evaluate request.padding (plan.variableValue request samples) = .ok v) (k : Int) :
    (v.spread (plan.grid request request.nodeResolution))[k]? =
      if k ∈ plan.grid request request.nodeResolution then some (v.reading request.padding k)
      else none :=
  Value.getElem?_spread (Expr.onGrid_evaluate (fun _ _ => onGrid_variableValue) h) k

end Plan
end MetricQuery
