/-
  MetricQuery.Pipeline.Run
  ────────────────────────
  **A RUN: ITS OUTCOME AND WHAT HAPPENED ON THE WAY.**

  A run ends with a result or a failure, and it leaves a record of the queries
  that it made and of the stages that finished, in the order in which they did.
  A failure ends a run and keeps the record so far.

    • `Run.bind`    — one run after another,
    • `Run.outcome_bind` — its outcome is that of the two outcomes in sequence,
    • `Run.quiet`   — a run whose stages are nobody's business.
-/
import MetricQuery.Pipeline.Frame

namespace MetricQuery

/-! ## §1. Records and runs. -/

/-- Something that happened during a run. -/
inductive Event (α : Type) where
  /-- A query was answered with so many buckets. -/
  | queried (buckets : Nat)
  /-- A stage finished, with its output or its failure. -/
  | finished (stage : String) (outcome : Except Fault (Frame α))

/-- A record and an outcome. -/
structure Run (α β : Type) where
  events : List (Event α)
  outcome : Except Fault β

namespace Run

variable {α β γ δ : Type}

@[ext] theorem ext {r s : Run α β} (he : r.events = s.events) (ho : r.outcome = s.outcome) :
    r = s := by
  cases r; cases s; cases he; cases ho; rfl

/-- A run that does nothing. -/
def pure (b : β) : Run α β :=
  ⟨[], .ok b⟩

/-- A run that fails at once. -/
def fail (fault : Fault) : Run α β :=
  ⟨[], .error fault⟩

/-- An outcome without a record. -/
def ofOutcome (outcome : Except Fault β) : Run α β :=
  ⟨[], outcome⟩

/-- One run after another. -/
def bind (r : Run α β) (f : β → Run α γ) : Run α γ :=
  match r.outcome with
  | .ok b => ⟨r.events ++ (f b).events, (f b).outcome⟩
  -- What happened before a failure stays on record.
  | .error fault => ⟨r.events, .error fault⟩

instance : Monad (Run α) where
  pure := Run.pure
  bind := Run.bind

theorem pure_bind' (b : β) (f : β → Run α γ) : (Run.pure b).bind f = f b := rfl

theorem bind_pure' (r : Run α β) : r.bind Run.pure = r := by
  obtain ⟨events, outcome⟩ := r
  cases outcome with
  | ok b => simp [bind, pure]
  | error fault => rfl

theorem bind_assoc' (r : Run α β) (f : β → Run α γ) (g : γ → Run α δ) :
    (r.bind f).bind g = r.bind fun b => (f b).bind g := by
  obtain ⟨events, outcome⟩ := r
  cases outcome with
  | ok b =>
      simp only [bind]
      cases (f b).outcome <;> simp
  | error fault => rfl

instance : LawfulMonad (Run α) := LawfulMonad.mk' (Run α)
  (fun r => bind_pure' r)
  (fun b f => pure_bind' b f)
  (fun r f g => bind_assoc' r f g)

/-- **The outcome of two runs in sequence** is that of their outcomes in sequence. -/
theorem outcome_bind (r : Run α β) (f : β → Run α γ) :
    (r.bind f).outcome = r.outcome.bind fun b => (f b).outcome := by
  obtain ⟨events, outcome⟩ := r
  cases outcome <;> rfl

/-! ## §2. Keeping records. -/

/-- A run that records one event. -/
def record (event : Event α) : Run α Unit :=
  ⟨[event], .ok ()⟩

/-- A run of a stage, with the report that it finished. -/
def reported (stage : String) (r : Run α (Frame α)) : Run α (Frame α) :=
  ⟨r.events ++ [.finished stage r.outcome], r.outcome⟩

/-- The same run with no report of its stages.  Its queries stay on record. -/
def quiet (r : Run α β) : Run α β :=
  ⟨r.events.filter fun
    | .queried _ => true
    | .finished _ _ => false, r.outcome⟩

end Run
end MetricQuery
