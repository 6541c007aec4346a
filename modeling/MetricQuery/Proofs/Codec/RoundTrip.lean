/-
  MetricQuery.Proofs.Codec.RoundTrip
  ──────────────────────────────────
  **WHAT COMES BACK FROM JSON.**

  Names, identifiers, options and whole numbers come back as they were written.
  A floating-point number comes back if it is finite.  Any other is written as
  null: inside a formula null is no number, so the formula is refused whatever
  stands around it; as a padding null is the undefined number, whichever number
  it was before.

    • `mapM_map_eq_some`       — lists come back if their items do,
    • `Expr.ofJson?_toJson`    — a formula comes back, or is refused for one number,
    • `Request.ofJson?_toJson` — a request comes back, but for its padding,
    • `Expr.reads_back_iff`    — which formulas survive,
    • `Request.survives_iff`   — which requests do.
-/
import MetricQuery.Codec.Formula
import MetricQuery.Codec.Request
import MetricQuery.Proofs.Floating
import MetricQuery.Time.Day

namespace MetricQuery

/-! ## §1. Lists and options. -/

/-- A list comes back if each of its items does. -/
theorem mapM_map_eq_some {β γ : Type} (read : γ → Option β) (write : β → γ)
    (h : ∀ b, read (write b) = some b) (bs : List β) : (bs.map write).mapM read = some bs := by
  induction bs with
  | nil => rfl
  | cons b bs ih =>
      rw [List.map_cons, List.mapM_cons, h, ih]
      rfl

namespace Options

/-- Options are made again from the list of them. -/
theorem ofList_toList (options : Options) : Std.ExtTreeMap.ofList options.toList = options := by
  apply Std.ExtTreeMap.ext_getElem?
  intro key
  cases hvalue : options[key]? with
  | some value =>
      have hmem : (key, value) ∈ options.toList :=
        Std.ExtTreeMap.mem_toList_iff_getElem?_eq_some.2 hvalue
      exact Std.ExtTreeMap.getElem?_ofList_of_mem Std.ReflCmp.compare_self
        Std.ExtTreeMap.distinct_keys_toList hmem
  | none =>
      have hmem : key ∉ options := by
        rw [Std.ExtTreeMap.mem_iff_isSome_getElem?, hvalue]
        simp
      apply Std.ExtTreeMap.getElem?_ofList_of_contains_eq_false
      simpa using hmem

theorem ofJson?_toJson (options : Options) : ofJson? options.toJson = some options := by
  show Option.bind (List.mapM _ (List.map _ options.toList)) _ = _
  rw [mapM_map_eq_some]
  · exact congrArg some (ofList_toList options)
  · intro o
    rfl

end Options

/-! ## §2. Formulas. -/

namespace Expr

theorem ofJson?_number (x : Float) :
    ofJson? (.object [("number", .ofFloat x)]) = if x.isFinite then some (number x) else none := by
  unfold Json.ofFloat
  split <;> simp [ofJson?, Json.float?]

theorem ofJson?_variable (options : Options) :
    ofJson? (.object [("variable", options.toJson)]) = some («variable» options) := by
  have hoptions := Options.ofJson?_toJson options
  unfold Options.toJson at hoptions ⊢
  simp [ofJson?, hoptions]

theorem ofFields_eq_map (fields : List (String × Json)) :
    ofFields fields = fields.map fun (k, j) => (k, ofJson? j) := by
  induction fields with
  | nil =>
      rw [ofFields]
      rfl
  | cons f fields ih =>
      rw [ofFields, ih]
      rfl

/-- Two operands are read one by one. -/
theorem ofJson?_binary (left right : Json) (op : BinaryOp) :
    ofJson? (.object [("binary_op", .object [("left", left), ("op", .string op.name),
      ("right", right)])]) =
      (ofJson? left).bind fun l => (ofJson? right).map fun r => binary l op r := by
  rw [ofJson?, ofFields_eq_map]
  show ((ofJson? left).bind fun l => (BinaryOp.ofName? op.name).bind fun op =>
    (ofJson? right).bind fun r => some (binary l op r)) = _
  rw [BinaryOp.ofName?_name]
  cases ofJson? left <;> cases ofJson? right <;> rfl

/-- An operand is read by itself. -/
theorem ofJson?_unary (sign : Sign) (operand : Json) :
    ofJson? (.object [("unary_op", .object [("op", .string sign.name), ("operand", operand)])]) =
      (ofJson? operand).map fun e => unary sign e := by
  rw [ofJson?, ofFields_eq_map]
  show ((Sign.ofName? sign.name).bind fun sign =>
    (ofJson? operand).bind fun e => some (unary sign e)) = _
  rw [Sign.ofName?_name]
  cases ofJson? operand <;> rfl

/-- **A formula comes back** if all of its numbers are finite, and is refused otherwise. -/
theorem ofJson?_toJson (e : Expr Float) :
    ofJson? e.toJson = if e.numbers.all Float.isFinite then some e else none := by
  induction e with
  | number x =>
      rw [toJson, ofJson?_number]
      simp [numbers]
  | «variable» options =>
      rw [toJson, ofJson?_variable]
      rfl
  | binary left op right ihl ihr =>
      rw [toJson, ofJson?_binary, ihl, ihr, numbers, List.all_append]
      -- One number that is not finite, on either side, is enough.
      cases left.numbers.all Float.isFinite <;> cases right.numbers.all Float.isFinite <;> rfl
  | unary sign operand ih =>
      rw [toJson, ofJson?_unary, ih, numbers]
      cases operand.numbers.all Float.isFinite <;> rfl

/-- **Formulas survive if their numbers are finite.**  Written and read back, a formula is the same
formula if and only if every number in it is finite, whatever its options and however deep the
number stands, and it is refused if and only if some number is infinite or undefined. -/
theorem reads_back_iff (e : Expr Float) :
    (ofJson? e.toJson = some e ↔ ∀ x ∈ e.numbers, x.isFinite = true) ∧
      (ofJson? e.toJson = none ↔ ∃ x ∈ e.numbers, x.isInf = true ∨ x.isNaN = true) := by
  have hnot : (∃ x ∈ e.numbers, x.isInf = true ∨ x.isNaN = true) ↔
      ¬ ∀ x ∈ e.numbers, x.isFinite = true := by
    simp only [← isFinite_eq_false_iff, not_forall, Bool.not_eq_true, exists_prop]
  rw [ofJson?_toJson, hnot, ← List.all_eq_true]
  cases e.numbers.all Float.isFinite <;> simp

end Expr

/-! ## §3. Requests. -/

theorem Source.ofJson?_toJson (source : Source) : Source.ofJson? source.toJson = some source := by
  cases source with
  | formula text => rfl
  | entities es =>
      have hes : Json.list? Entity.ofJson? (.array (es.map Entity.toJson)) = some es :=
        mapM_map_eq_some _ _ Entity.ofJson?_toJson es
      simp [toJson, ofJson?, hes]

namespace Padding

/-- A padding that is not finite comes back as the undefined number. -/
theorem ofJson?_toJson (pad : Padding Float) :
    ofJson? pad.toJson = some (if pad.value.isFinite then pad else missing) := by
  unfold toJson Json.ofFloat
  split <;> rfl

/-- The undefined number stands for the same missing values as a padding that is undefined too, and
as no other. -/
theorem missing_agrees (pad : Padding Float) : missing.agrees pad = pad.value.isNaN := by
  have hmissing : missing.value.isNaN = true := by decide +kernel
  unfold agrees marks
  rw [equal_eq_false_of_isNaN hmissing, undefined_eq_isNaN, undefined_eq_isNaN, hmissing]
  simp

/-- **What comes back stands for the same missing values** unless the padding is infinite. -/
theorem readBack_agrees_iff (pad : Padding Float) :
    (if pad.value.isFinite then pad else missing).agrees pad = true ↔ pad.value.isInf = false := by
  rw [isInf_eq_false_iff]
  cases hfinite : pad.value.isFinite with
  | true => exact ⟨fun _ => .inl rfl, fun _ => pad.marks_value⟩
  | false => simp [missing_agrees]

end Padding

namespace Json

theorem int64?_integer {n : Int} (h : FitsInt64 n) : (integer n).int64? = some n :=
  if_pos h

variable {β : Type} {read : Json → Option β} {parts : List (String × Json)} {name : String}
  {j : Json} {b : β}

theorem required?_eq_some (hlookup : parts.lookup name = some j) (hread : read j = some b) :
    required? read parts name = some b := by
  unfold required?
  rw [hlookup]
  exact hread

theorem defaulted?_eq_some {fallback : β} (hlookup : parts.lookup name = some j)
    (hread : read j = some b) : defaulted? read fallback parts name = some b := by
  unfold defaulted?
  rw [hlookup]
  exact hread

end Json

namespace Request

variable {r : Request Float}

/-- A request is read part by part, each by its name. -/
theorem ofJson?_object {fields : List (String × Json)}
    (hsource : Json.required? Source.ofJson? fields "source" = some r.source)
    (hstart : Json.required? Json.int64? fields "start" = some r.start)
    (hstop : Json.required? Json.int64? fields "end" = some r.stop)
    (hnodeResolution : Json.required? Resolution.ofJson? fields "node_resolution" =
      some r.nodeResolution)
    (hnodeAggregation : Json.required? Aggregation.ofJson? fields "node_aggregation" =
      some r.nodeAggregation)
    (hcombineAggregation : Json.required? Aggregation.ofJson? fields "combine_aggregation" =
      some r.combineAggregation)
    (hresultResolution : Json.required? Resolution.ofJson? fields "result_resolution" =
      some r.resultResolution)
    (hresultAggregation : Json.required? Aggregation.ofJson? fields "result_aggregation" =
      some r.resultAggregation)
    (hpadding : Json.defaulted? Padding.ofJson? Padding.missing fields "padding" =
      some r.padding) :
    ofJson? (.object fields) = some r := by
  have hrecord : (Json.object fields).record? parts = some fields := rfl
  unfold ofJson?
  rw [hrecord]
  simp only [Option.bind_eq_bind, Option.bind_some, hsource, hstart, hstop, hnodeResolution,
    hnodeAggregation, hcombineAggregation, hresultResolution, hresultAggregation, hpadding]
  rfl

/-- **A request comes back** as it was, but for a padding that is not finite. -/
theorem ofJson?_toJson (hstart : FitsInt64 r.start) (hstop : FitsInt64 r.stop) :
    ofJson? r.toJson =
      some { r with padding := if r.padding.value.isFinite then r.padding else .missing } := by
  apply ofJson?_object
  · exact Json.required?_eq_some rfl (Source.ofJson?_toJson _)
  · exact Json.required?_eq_some rfl (Json.int64?_integer hstart)
  · exact Json.required?_eq_some rfl (Json.int64?_integer hstop)
  · exact Json.required?_eq_some rfl (Resolution.ofJson?_toJson _)
  · exact Json.required?_eq_some rfl (Aggregation.ofJson?_toJson _)
  · exact Json.required?_eq_some rfl (Aggregation.ofJson?_toJson _)
  · exact Json.required?_eq_some rfl (Resolution.ofJson?_toJson _)
  · exact Json.required?_eq_some rfl (Aggregation.ofJson?_toJson _)
  · exact Json.defaulted?_eq_some rfl (Padding.ofJson?_toJson _)

theorem same_withPadding (r : Request Float) (pad : Padding Float) :
    same { r with padding := pad } r = pad.agrees r.padding := by
  simp [same]

/-- **Requests survive unless their padding is infinite.**  Written and read back, a request is
never refused, and all of it but the padding is as it was.  So is a finite padding; any other has
become the undefined number.  The two are equal, as requests compare, if and only if the padding is
not infinite. -/
theorem survives_iff (r : Request Float) (hstart : FitsInt64 r.start) (hstop : FitsInt64 r.stop) :
    ∃ back : Request Float, ofJson? r.toJson = some back ∧
      back = { r with padding := if r.padding.value.isFinite then r.padding else .missing } ∧
      (back.same r = true ↔ r.padding.value.isInf = false) := by
  refine ⟨_, ofJson?_toJson hstart hstop, rfl, ?_⟩
  rw [same_withPadding]
  exact r.padding.readBack_agrees_iff

/-- The sum of a minute at one entity. -/
def oneMinuteSum (pad : Padding Float) : Request Float :=
  ⟨.entities [⟨"1", "1"⟩], 0, 60, .minute, .sum, .sum, .minute, .sum, pad⟩

/-- An undefined padding survives, although null is all that is written of it. -/
theorem survives_iff_undefined :
    ∃ back : Request Float, ofJson? (oneMinuteSum .missing).toJson = some back ∧
      back.same (oneMinuteSum .missing) = true := by
  obtain ⟨back, hback, -, hsame⟩ :=
    survives_iff (oneMinuteSum .missing) ⟨by decide, by decide⟩ ⟨by decide, by decide⟩
  exact ⟨back, hback, hsame.2 (by decide +kernel)⟩

/-- An infinite padding does not: what comes back takes other values for missing. -/
theorem infinite_padding_is_lost :
    ∃ back : Request Float, ofJson? (oneMinuteSum ⟨1.0 / 0.0⟩).toJson = some back ∧
      back.same (oneMinuteSum ⟨1.0 / 0.0⟩) = false := by
  refine ⟨_, ofJson?_toJson ⟨by decide, by decide⟩ ⟨by decide, by decide⟩, ?_⟩
  decide +kernel

end Request
end MetricQuery
