/-
  MetricQuery.Proofs.Pipeline.Branching
  ─────────────────────────────────────
  **BRANCHES IN ORDER, UP TO THE FIRST BAD ONE.**

  Every branch is run on the input of the stage, not on the output of the branch
  before.  The series of all branches become one list, in the order of the
  branches.  A branch is bad if it fails or yields nothing; the first bad branch
  ends the run, and those behind it are not run.  As lists are joined without a
  trace of where they met, branches may be put into a branch of their own.

    • `Pipeline.Yields`, `Pipeline.Spoils` — good branches and bad ones,
    • `all_yield_or_first_spoils` — all are good, or one is the first that is not,
    • `collect_of_yields`         — what good branches leave behind,
    • `Bundles`                   — branches put into a branch, at any depth,
    • `branches_collect`          — all of it for any branches.
-/
import Mathlib.Data.List.Forall2
import MetricQuery.Proofs.Pipeline.Outcome
import MetricQuery.Proofs.Pipeline.Sequence

namespace MetricQuery

variable {α : Type} {input : Frame α}

/-! ## §1. One branch. -/

namespace Pipeline

/-- **A good branch** succeeds with one series or with a list of them. -/
def Yields (input : Frame α) (branch : Pipeline α) (ss : List (Series α)) : Prop :=
  ∃ frame, (branch.run input).outcome = .ok frame ∧ frame.all? = some ss

/-- **A bad branch** fails, or succeeds with nothing, which is a failure of its own. -/
def Spoils (input : Frame α) (branch : Pipeline α) (fault : Fault) : Prop :=
  (branch.run input).outcome = .error fault ∨
    (branch.run input).outcome = .ok .empty ∧ fault = .execution .emptyBranch

/-- A branch leaves behind what its run does. -/
theorem branchSeries_of_yields {branch : Pipeline α} {ss : List (Series α)}
    (h : branch.Yields input ss) :
    branchSeries branch input = ⟨(branch.run input).events, .ok ss⟩ := by
  obtain ⟨frame, hrun, hall⟩ := h
  unfold branchSeries Run.bind
  rw [hrun]
  cases frame with
  | empty => cases hall
  | series s => cases hall; simp [Run.pure]
  | list ss => cases hall; simp [Run.pure]

theorem branchSeries_of_spoils {branch : Pipeline α} {fault : Fault}
    (h : branch.Spoils input fault) :
    branchSeries branch input = ⟨(branch.run input).events, .error fault⟩ := by
  unfold branchSeries Run.bind
  rcases h with hrun | ⟨hrun, rfl⟩
  · rw [hrun]
  · rw [hrun]
    simp [Run.fail]

/-- A branch is good or bad. -/
theorem yields_or_spoils (input : Frame α) (branch : Pipeline α) :
    (∃ ss, branch.Yields input ss) ∨ ∃ fault, branch.Spoils input fault := by
  cases hrun : (branch.run input).outcome with
  | error fault => exact .inr ⟨fault, .inl hrun⟩
  | ok frame =>
      cases frame with
      | empty => exact .inr ⟨_, .inr ⟨hrun, rfl⟩⟩
      | series s => exact .inl ⟨[s], .series s, hrun, rfl⟩
      | list ss => exact .inl ⟨ss, .list ss, hrun, rfl⟩

end Pipeline

/-! ## §2. All branches. -/

/-- **All branches are good, or one is the first bad one.** -/
theorem all_yield_or_first_spoils (input : Frame α) (branches : List (Pipeline α)) :
    (∃ lists, List.Forall₂ (Pipeline.Yields input) branches lists) ∨
      ∃ before bad after lists fault, branches = before ++ bad :: after ∧
        List.Forall₂ (Pipeline.Yields input) before lists ∧ bad.Spoils input fault := by
  induction branches with
  | nil => exact .inl ⟨[], .nil⟩
  | cons branch rest ih =>
      rcases branch.yields_or_spoils input with ⟨ss, hss⟩ | ⟨fault, hfault⟩
      · rcases ih with ⟨lists, hlists⟩ | ⟨before, bad, after, lists, fault, rfl, hlists, hbad⟩
        · exact .inl ⟨ss :: lists, .cons hss hlists⟩
        · exact .inr ⟨branch :: before, bad, after, ss :: lists, fault, rfl,
            .cons hss hlists, hbad⟩
      · exact .inr ⟨[], branch, rest, [], fault, rfl, .nil, hfault⟩

/-- **The first branches, and the others behind them.** -/
theorem collect_append (first last : List (Pipeline α)) (input : Frame α) :
    collect (first ++ last) input =
      (collect first input).bind fun ss =>
        (collect last input).bind fun more => .pure (ss ++ more) := by
  induction first with
  | nil =>
      show collect last input = (collect last input).bind Run.pure
      exact (Run.bind_pure' _).symm
  | cons branch first ih =>
      rw [List.cons_append, collect, ih, collect]
      simp only [Run.bind_assoc', Run.pure_bind', List.append_assoc]

theorem collect_singleton (branch : Pipeline α) (input : Frame α) :
    collect [branch] input = branchSeries branch input := by
  show (branchSeries branch input).bind
    (fun ss => (Run.pure []).bind fun more => .pure (ss ++ more)) = _
  simp only [Run.pure_bind', List.append_nil]
  exact Run.bind_pure' _

/-- **Good branches** leave all of their series behind, and all of their records. -/
theorem collect_of_yields {branches : List (Pipeline α)} {lists : List (List (Series α))}
    (h : List.Forall₂ (Pipeline.Yields input) branches lists) :
    collect branches input =
      ⟨branches.flatMap fun b => (b.run input).events, .ok lists.flatten⟩ := by
  induction h with
  | nil => rfl
  | @cons branch ss branches lists hss _ ih =>
      rw [collect, Pipeline.branchSeries_of_yields hss, ih]
      simp [Run.bind, Run.pure]

/-- A bad branch ends the run, whatever comes behind it. -/
theorem collect_of_spoils {bad : Pipeline α} {after : List (Pipeline α)} {fault : Fault}
    (h : bad.Spoils input fault) :
    collect (bad :: after) input = ⟨(bad.run input).events, .error fault⟩ := by
  rw [collect, Pipeline.branchSeries_of_spoils h]
  rfl

/-- The run of good branches. -/
theorem run_branches_of_yields {branches : List (Pipeline α)} {lists : List (List (Series α))}
    (h : List.Forall₂ (Pipeline.Yields input) branches lists) :
    (Stage.branches branches).run input =
      ⟨branches.flatMap fun b => (b.run input).events, .ok (.list lists.flatten)⟩ := by
  show (collect branches input).bind _ = _
  rw [collect_of_yields h]
  simp [Run.bind, Run.pure]

/-- The run of branches of which one is the first bad one. -/
theorem run_branches_of_spoils {before after : List (Pipeline α)} {bad : Pipeline α}
    {lists : List (List (Series α))} {fault : Fault}
    (h : List.Forall₂ (Pipeline.Yields input) before lists) (hbad : bad.Spoils input fault) :
    (Stage.branches (before ++ bad :: after)).run input =
      ⟨(before ++ [bad]).flatMap fun b => (b.run input).events, .error fault⟩ := by
  show (collect (before ++ bad :: after) input).bind _ = _
  rw [collect_append, collect_of_yields h, collect_of_spoils hbad]
  simp [Run.bind]

/-! ## §3. Branches inside branches. -/

/-- Consecutive branches are put into one branch that runs them as branches: among the branches
themselves, or among those of a stage inside one of them. -/
inductive Bundles : List (Pipeline α) → List (Pipeline α) → Prop
  | here (first group last : List (Pipeline α)) :
      Bundles (first ++ group ++ last) (first ++ [.stage (.branches group)] :: last)
  | inside (first last : List (Pipeline α)) (before after : Pipeline α)
      {group bundled : List (Pipeline α)} (h : Bundles group bundled) :
      Bundles (first ++ (before ++ .stage (.branches group) :: after) :: last)
        (first ++ (before ++ .stage (.branches bundled) :: after) :: last)

theorem outcome_run_branches (branches : List (Pipeline α)) (input : Frame α) :
    ((Stage.branches branches).run input).outcome =
      (collect branches input).outcome.map .list := by
  unfold Stage.branches
  rw [Run.outcome_bind]
  cases (collect branches input).outcome <;> rfl

/-- Branches are replaced by others that end in the same way. -/
theorem outcome_collect_replace (first last : List (Pipeline α)) {group group' : List (Pipeline α)}
    (h : (collect group input).outcome = (collect group' input).outcome) :
    (collect (first ++ group ++ last) input).outcome =
      (collect (first ++ group' ++ last) input).outcome := by
  simp only [collect_append, Run.outcome_bind, h]

/-- What a branch yields depends on the outcome of its run alone. -/
theorem outcome_branchSeries_congr {branch branch' : Pipeline α}
    (h : (branch.run input).outcome = (branch'.run input).outcome) :
    (branchSeries branch input).outcome = (branchSeries branch' input).outcome := by
  unfold branchSeries
  rw [Run.outcome_bind, Run.outcome_bind, h]

/-- A branch that is nothing but a stage of branches ends as those do. -/
theorem outcome_branchSeries_branches (group : List (Pipeline α)) (input : Frame α) :
    (branchSeries [.stage (.branches group)] input).outcome = (collect group input).outcome := by
  unfold branchSeries
  rw [Run.outcome_bind, outcome_runSteps_cons, outcome_step_stage, outcome_run_branches]
  cases (collect group input).outcome <;> rfl

/-- **Bundling changes neither the result nor the failure.** -/
theorem Bundles.outcome_collect {branches bundled : List (Pipeline α)}
    (h : Bundles branches bundled) (input : Frame α) :
    (collect bundled input).outcome = (collect branches input).outcome := by
  induction h generalizing input with
  | here first group last =>
      rw [List.append_cons]
      apply outcome_collect_replace
      rw [collect_singleton]
      exact outcome_branchSeries_branches group input
  | @inside first last before after group bundled _ ih =>
      rw [List.append_cons, List.append_cons first (before ++ .stage (.branches group) :: after)]
      apply outcome_collect_replace
      rw [collect_singleton, collect_singleton]
      apply outcome_branchSeries_congr
      rw [outcome_runSteps_append, outcome_runSteps_append]
      congr 1
      funext frame
      -- The stage inside ends in the same way on whatever reaches it.
      rw [outcome_runSteps_cons, outcome_runSteps_cons, outcome_step_stage, outcome_step_stage,
        outcome_run_branches, outcome_run_branches, ih frame]

/-! ## §4. The stage. -/

/-- **Branches are collected in order, up to the first bad one.**  The stage succeeds if and only
if every branch does on the same input, each with one series or a list; then it yields all of the
series in order, and all branches were run.  Otherwise it fails as the first bad branch does, and
that branch is the last that was run.  Consecutive branches may be put into a branch of their own,
at any depth, without a difference to the result or the failure. -/
theorem branches_collect (branches : List (Pipeline α)) (input : Frame α) :
    (∀ frame, ((Stage.branches branches).run input).outcome = .ok frame ↔
      ∃ lists, List.Forall₂ (Pipeline.Yields input) branches lists ∧
        frame = .list lists.flatten ∧
        ((Stage.branches branches).run input).events =
          branches.flatMap fun b => (b.run input).events) ∧
    (∀ fault, ((Stage.branches branches).run input).outcome = .error fault ↔
      ∃ before bad after lists, branches = before ++ bad :: after ∧
        List.Forall₂ (Pipeline.Yields input) before lists ∧ bad.Spoils input fault ∧
        ((Stage.branches branches).run input).events =
          (before ++ [bad]).flatMap fun b => (b.run input).events) ∧
    ∀ bundled, Bundles branches bundled →
      ((Stage.branches bundled).run input).outcome =
        ((Stage.branches branches).run input).outcome := by
  refine ⟨?_, ?_, ?_⟩
  · intro frame
    constructor
    · intro hok
      rcases all_yield_or_first_spoils input branches with
        ⟨lists, hlists⟩ | ⟨before, bad, after, lists, fault, rfl, hlists, hbad⟩
      · rw [run_branches_of_yields hlists] at hok ⊢
        cases hok
        exact ⟨lists, hlists, rfl, rfl⟩
      · rw [run_branches_of_spoils hlists hbad] at hok
        cases hok
    · rintro ⟨lists, hlists, rfl, -⟩
      rw [run_branches_of_yields hlists]
  · intro fault
    constructor
    · intro herror
      rcases all_yield_or_first_spoils input branches with
        ⟨lists, hlists⟩ | ⟨before, bad, after, lists, fault', rfl, hlists, hbad⟩
      · rw [run_branches_of_yields hlists] at herror
        cases herror
      · rw [run_branches_of_spoils hlists hbad] at herror ⊢
        cases herror
        exact ⟨before, bad, after, lists, rfl, hlists, hbad, rfl⟩
    · rintro ⟨before, bad, after, lists, rfl, hlists, hbad, -⟩
      rw [run_branches_of_spoils hlists hbad]
  · intro bundled hbundled
    rw [outcome_run_branches, outcome_run_branches, hbundled.outcome_collect]

/-- Four branches: two that yield a point each, one that passes on its input, and one that fails. -/
def fourBranches : List (Pipeline Nat) :=
  [[.stage (onePoint "a")], [.stage (onePoint "b")], [], [.stage (refusing "c")]]

/-- The same with the two in the middle in a branch of their own. -/
def middleBundled : List (Pipeline Nat) :=
  [[.stage (onePoint "a")], [.stage (.branches [[.stage (onePoint "b")], []])],
   [.stage (refusing "c")]]

/-- The branch that passes on its input is bad where that is empty, also inside another one, and the
branch behind it is not run.  Where the input is a series it is good, and the one behind it is bad.
-/
theorem branches_collect_four :
    Bundles fourBranches middleBundled ∧
      ((Stage.branches middleBundled).run .empty).outcome = .error (.execution .emptyBranch) ∧
      finishedStages ((Stage.branches fourBranches).run .empty).events = ["a", "b"] ∧
      ((Stage.branches middleBundled).run (.series ∅)).outcome = .error (.store "c") := by
  have hbundles : Bundles fourBranches middleBundled :=
    .here [[.stage (onePoint "a")]] [[.stage (onePoint "b")], []] [[.stage (refusing "c")]]
  obtain ⟨-, hfails, hsame⟩ := branches_collect fourBranches .empty
  obtain ⟨-, -, hsame'⟩ := branches_collect fourBranches (.series ∅)
  refine ⟨hbundles, ?_, rfl, ?_⟩
  · rw [hsame middleBundled hbundles, hfails]
    exact ⟨[[.stage (onePoint "a")], [.stage (onePoint "b")]], [], [[.stage (refusing "c")]], _,
      rfl, .cons ⟨_, rfl, rfl⟩ (.cons ⟨_, rfl, rfl⟩ .nil), .inr ⟨rfl, rfl⟩, rfl⟩
  · rw [hsame' middleBundled hbundles]
    rfl

end MetricQuery
