import Rollout.Proofs.Command
import Rollout.Proofs.Sequence.Course
import Rollout.Proofs.Session.History
import Rollout.Proofs.Token.Places

/-!
The outcomes of a session.

In a session that starts without outcomes, and in which nobody edits the context or the catalogue,
the outcomes are those of stages that completed: each of them stands under the name of its step and
holds the result of a command that succeeded and the program id that goes with it. An outcome may
be replaced, but its name stays; a stage that fails leaves the outcomes as they were.
-/

set_option autoImplicit false
set_option relaxedAutoImplicit false

namespace Rollout

namespace Plan

/-- The program id that a step hands on with a result: for the rewards the one that the output
names, for the registry none, for the tests the one in the last word of the command. -/
def HandsOn (plan : Plan) (result : Result) (programId? : Option String) : Step → Prop
  | .rewards => ∃ programId, programId? = some programId ∧
      Stage.programIdIn plan.rewards.name result.output = .ok programId ∧
      Text.isBlankText programId = false ∧
      Token.openBrace ∉ programId.toList ∧ Token.closeBrace ∉ programId.toList
  | .registry => programId? = none
  | .tests => ∃ programId, programId? = some programId ∧
      Text.isBlankText programId = false ∧
      result.argv.getLast? = some (plan.parameter ++ "=" ++ programId)

/-- An outcome under a name fits a plan: the name is that of a step, and the outcome holds a result
that tells of success and the program id that is handed on with it. -/
def Fits (plan : Plan) (name : String) (outcome : Outcome) : Prop :=
  ∃ step result, name = Step.name step ∧ outcome.result = some result ∧ result.ok = true ∧
    plan.HandsOn result outcome.programId step

end Plan

section Stages

variable {σ : Type} {host : Host σ}

private theorem fits_of_verdict (repeats : host.RepeatsWords) {desk : Desk σ} {step : Step}
    {call : Call} {outcome : Outcome} (made : Stage.callFor desk.context step = .ok call)
    (returned : desk.verdict host step call = .ok outcome) :
    desk.context.plan.Fits step.name outcome := by
  cases step with
  | rewards =>
    obtain ⟨result, programId, ⟨success, names⟩, rfl⟩ :=
      (Desk.verdict_rewards_eq_ok_iff host).mp returned
    have read : Stage.programIdIn desk.context.plan.rewards.name result.output = .ok programId :=
      Stage.programIdIn_eq_ok_iff.mpr (Token.extract_eq_ok_iff.mpr names)
    exact ⟨.rewards, result, rfl, rfl, Result.ok_iff.mpr success.2, programId, rfl, read, names.2,
      names.no_brace⟩
  | registry =>
    obtain ⟨result, success, rfl⟩ := (Desk.verdict_registry_eq_ok_iff host).mp returned
    exact ⟨.registry, result, rfl, rfl, Result.ok_iff.mpr success.2, rfl⟩
  | tests =>
    obtain ⟨result, success, rfl⟩ := (Desk.verdict_tests_eq_ok_iff host).mp returned
    -- The tests made a call, so the context held an id that passed their guard.
    cases ready : Stage.readyProgramId desk.context with
    | error fault =>
      rw [Stage.callFor, ready] at made
      cases made
    | ok programId =>
      rw [Stage.callFor, ready] at made
      cases made
      obtain ⟨held, inked⟩ := Stage.programId_of_ready ready
      have words : result.argv = desk.context.plan.forward programId :=
        repeats _ _ _ success.1
      refine ⟨.tests, result, rfl, rfl, Result.ok_iff.mpr success.2, programId, held, inked, ?_⟩
      rw [words]
      exact List.getLast?_concat ..

private theorem context_of_runStage (repeats : host.RepeatsWords) (name : String) (desk : Desk σ) :
    let context := (Desk.runStage host (.usual host) name desk).state.context
    context = desk.context ∨ ∃ outcome,
      desk.context.plan.Fits name outcome ∧ context = desk.context.record name outcome := by
  intro context
  cases answer : (Desk.runStage host (.usual host) name desk).answer with
  | error fault => exact .inl (Desk.context_of_runStage_error host answer)
  | ok outcome? =>
    cases found : (Catalogue.usual host).find name with
    | error missing =>
      rw [Desk.runStage_of_missing host found] at answer
      cases answer
    | ok stage =>
      obtain ⟨step, rfl⟩ := Catalogue.step_of_find found
      obtain ⟨call, outcome, made, verdict, state⟩ := Desk.exists_verdict_of_returned host answer
      exact .inr ⟨outcome, fits_of_verdict repeats made verdict, congrArg Desk.context state⟩

/-- The outcomes of a context fit its plan, which is a given one, and stand under names that differ;
the first of these names are given ones. -/
private structure Tidy (plan : Plan) (names : List String) (context : Context) : Prop where
  planned : context.plan = plan
  fits : ∀ name outcome, (name, outcome) ∈ context.outcomes → plan.Fits name outcome
  distinct : context.outcomes.names.Nodup
  names : names <+: context.outcomes.names

private theorem tidy_runStage (repeats : host.RepeatsWords) (plan : Plan) (names : List String)
    (name : String) :
    Act.Preserves (fun desk => Tidy plan names desk.context)
      (Desk.runStage host (.usual host) name) := by
  intro desk tidy
  rcases context_of_runStage repeats name desk with same | ⟨outcome, fits, recorded⟩
  · rw [same]
    exact tidy
  · rw [recorded]
    refine ⟨tidy.planned, fun key value mem => ?_, Entries.nodup_names_put _ _ tidy.distinct,
      tidy.names.trans (Entries.names_prefix_put ..)⟩
    rcases Entries.mem_put mem with same | old
    · cases same
      exact tidy.planned ▸ fits
    · exact tidy.fits key value old

end Stages

/-- Whether an operation edits the context or the catalogue by hand. -/
def Operation.edits {σ : Type} : Operation σ → Bool
  | .register .. | .setOutcome .. | .dropOutcome _ | .setTimeout _ | .setPlan _ => true
  | _ => false

namespace Session

variable {σ : Type} (host : Host σ)

private def Has (holds : Desk σ → Prop) (session : Session σ) : Prop :=
  session.catalogue = .usual host ∧ holds session.bench.desk

private theorem preserves_perform {holds : Desk σ → Prop}
    (stages : ∀ name, Act.Preserves holds (Desk.runStage host (.usual host) name))
    {operation : Operation σ} (unedited : operation.edits = false) :
    Act.Preserves (Has host holds) (perform host operation) := by
  rintro session ⟨usual, held⟩
  rw [state_perform]
  cases operation with
  | run => exact ⟨usual, Bench.preserves_run host _ (usual ▸ stages) session.bench held⟩
  | runFresh =>
    exact ⟨usual, Bench.preserves_run host _ stages ⟨.fresh, session.bench.desk⟩ held⟩
  | runStage name => exact ⟨usual, (usual ▸ stages) name session.bench.desk held⟩
  | register name stage | setOutcome name outcome | dropOutcome name | setTimeout timeout
  | setPlan plan => cases unedited
  | _ => exact ⟨usual, held⟩

private theorem has_after {holds : Desk σ → Prop}
    (stages : ∀ name, Act.Preserves holds (Desk.runStage host (.usual host) name))
    {operations : List (Operation σ)}
    (unedited : ∀ operation ∈ operations, operation.edits = false) {session : Session σ}
    (has : Has host holds session) : Has host holds (after host operations session) := by
  induction operations generalizing session with
  | nil => exact has
  | cons operation rest ih =>
    obtain ⟨first, others⟩ := List.forall_mem_cons.mp unedited
    exact ih others (preserves_perform host stages first session has)

/-- In a session that starts without outcomes and edits nothing, every outcome stands under the name
of a step, one under each name, and holds the result of a command that succeeded and the program id
that goes with it. A name that has an outcome keeps one, in its place, and a stage that fails
leaves the outcomes as they were. -/
theorem outcomes_of_session (repeats : host.RepeatsWords) (context : Context) (world : σ)
    {operations : List (Operation σ)}
    (unedited : ∀ operation ∈ operations, operation.edits = false) :
    let start := opened (.usual host) ⟨{ context with outcomes := [] }, world⟩
    let outcomesAfter (operations : List (Operation σ)) :=
      (after host operations start).bench.desk.context.outcomes
    (∀ name outcome, (name, outcome) ∈ outcomesAfter operations → context.plan.Fits name outcome) ∧
      (outcomesAfter operations).names.Nodup ∧
      (∀ before later, operations = before ++ later →
        (outcomesAfter before).names <+: (outcomesAfter operations).names) ∧
      ∀ name desk fault, (Desk.runStage host (.usual host) name desk).answer = .error fault →
        (Desk.runStage host (.usual host) name desk).state.context = desk.context := by
  intro start outcomesAfter
  have tidy_start : Tidy context.plan [] start.bench.desk.context :=
    ⟨rfl, fun _ _ mem => absurd mem List.not_mem_nil, List.nodup_nil, List.nil_prefix⟩
  have tidy_after : ∀ front : List (Operation σ), (∀ operation ∈ front, operation.edits = false) →
      Has host (fun desk => Tidy context.plan [] desk.context) (after host front start) :=
    fun front calm =>
      has_after host (tidy_runStage repeats context.plan []) calm ⟨rfl, tidy_start⟩
  obtain ⟨-, tidy⟩ := tidy_after operations unedited
  refine ⟨tidy.fits, tidy.distinct, ?_, fun name desk fault failed =>
    Desk.context_of_runStage_error host failed⟩
  rintro before later rfl
  obtain ⟨calmBefore, calmLater⟩ := List.forall_mem_append.mp unedited
  obtain ⟨usual, settled⟩ := tidy_after before calmBefore
  -- From here on the names that are there now are the given ones.
  have onward := has_after host (tidy_runStage repeats context.plan (outcomesAfter before).names)
    calmLater ⟨usual, settled.planned, settled.fits, settled.distinct, List.prefix_rfl⟩
  rw [← after_append] at onward
  exact onward.2.names

/-- A session in which the tests are asked for too early and an unknown stage is asked for, with two
runs and one that is refused: it ends with the outcomes of the three steps. -/
theorem outcomes_of_session_rerun :
    let host := Host.ending (some "\x7bprogramId: ab\x7d") (.exited 0) (.exited 0) (.exited 0)
    let context : Context := .start ⟨.top, none, none, "make", "INFO"⟩ (.usual "make") default
    let operations := [.runStage "test-program", .run, .resolve ["test-program"], .run, .runFresh,
      .runStage "elsewhere"]
    let outcomes := (after host operations
      (opened (.usual host) ⟨{ context with outcomes := [] }, ()⟩)).bench.desk.context.outcomes
    outcomes.names = ["deploy-rewards", "deploy-super", "test-program"] ∧
      ∀ name outcome, (name, outcome) ∈ outcomes → context.plan.Fits name outcome := by
  intro host context operations outcomes
  have repeats : host.RepeatsWords := Host.ending_repeatsWords _ _ _ _
  have unedited : ∀ operation ∈ operations, operation.edits = false := by
    simp [operations, Operation.edits]
  exact ⟨by decide +kernel, (outcomes_of_session host repeats context () unedited).1⟩

end Session

end Rollout
