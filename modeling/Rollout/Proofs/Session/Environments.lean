import Rollout.Proofs.Machine.Environment
import Rollout.Proofs.Sequence.Calls
import Rollout.Proofs.Sequence.Records
import Rollout.Proofs.Session.Executions

/-!
The environments of the commands of a run.

On a host whose commands leave the environment of the program as it is, as those of the machine do,
every command of a run starts from the environment that there was before the run. Only the tests are
given a variable over it: the parameter of the plan, whose value is the program id that the rewards
command named in this run.
-/

set_option autoImplicit false
set_option relaxedAutoImplicit false

namespace Rollout

open Machine (World environmentFor fault? launch stateFor)

/-- What a world tells is kept by the commands and by the clock of a host. -/
structure Host.Keeps {σ α : Type} (host : Host σ) (tells : σ → α) : Prop where
  launch (call : Call) (world : σ) : tells (host.launch call world).world = tells world
  tick (world : σ) : tells (host.tick world).2 = tells world

theorem Machine.host_keeps_environment : Machine.host.Keeps World.environment :=
  ⟨Machine.environment_launch, fun _ => rfl⟩

theorem Host.Keeps.runStage {σ α : Type} {host : Host σ} {tells : σ → α} (keeps : host.Keeps tells)
    (told : α) (name : String) :
    Act.Preserves (fun desk : Desk σ => tells desk.world = told)
      (Desk.runStage host (.usual host) name) := by
  rintro desk rfl
  have called (call : Call) : tells (host.spoil call desk.world) = tells desk.world :=
    (keeps.launch call _).trans (keeps.tick _)
  cases found : (Catalogue.usual host).find name with
  | error fault => rw [Desk.runStage_of_missing host found]
  | ok stage =>
    obtain ⟨step, rfl⟩ := Catalogue.step_of_find found
    cases made : Stage.callFor desk.context step with
    | error fault =>
      rw [(Desk.runStage_usual_of_refused host made).2.2]
      exact keeps.tick _
    | ok call =>
      cases judged : Desk.verdict host step call desk with
      | error fault =>
        rw [(Desk.runStage_usual_of_error host made judged).2.2]
        exact called call
      | ok outcome =>
        rw [(Desk.runStage_usual_of_ok host made judged).2.2]
        exact (keeps.tick _).trans (called call)

section Calls

variable {σ : Type} (host : Host σ) (desk : Desk σ)

theorem Bench.calls_run_usual :
    Event.calls (run host (.usual host) ⟨.fresh, desk⟩).events =
      Event.calls ((executions host (.usual host) ⟨.fresh, desk⟩).flatMap (·.events host)) := by
  have fresh : (⟨.fresh, desk⟩ : Bench σ).sequencer.history = [] := rfl
  obtain ⟨⟨last, made, ends⟩, -⟩ := run_of_begun host (.usual host) fresh rfl
  rw [made, Event.calls_append, ends.calls_eq, List.append_nil]

private theorem call_of_execution {execution : Execution σ}
    (executed : execution ∈ Bench.executions host (.usual host) ⟨.fresh, desk⟩) {call : Call}
    (mem : call ∈ Event.calls (execution.events host)) :
    (execution.name ≠ Step.tests.name → call.overlay = none) ∧
      (execution.name = Step.tests.name → ∃ result programId,
        Yields (host.reply (Stage.rewardsCall desk.context) desk.world) result programId ∧
          call = Stage.testsCall desk.context programId) := by
  obtain ⟨step, name, stage⟩ :=
    Catalogue.step_of_get?_usual (Bench.stage_of_mem_executions host executed)
  obtain ⟨known, made⟩ : ∃ known, call = Stage.callWith execution.desk.context known step := by
    rw [Execution.calls_events, Execution.did, stage] at mem
    exact Stage.exists_callWith_of_mem_calls host mem
  have called : call ∈ Event.calls (Bench.run host (.usual host) ⟨.fresh, desk⟩).events := by
    rw [Bench.calls_run_usual, Event.mem_calls_iff]
    exact List.mem_flatMap.mpr ⟨execution, executed, Event.mem_calls_iff.mp mem⟩
  rw [name]
  cases step with
  | rewards | registry => exact ⟨fun _ => made ▸ rfl, fun same => absurd same (by decide)⟩
  | tests =>
    have laid : call.overlay ≠ none := by
      rw [made]
      exact Option.some_ne_none _
    obtain ⟨programId, calls, named⟩ := calls_of_pending host desk
    rw [calls, List.mem_map] at called
    obtain ⟨other, pending, rfl⟩ := called
    cases other with
    | rewards | registry => exact absurd rfl laid
    | tests =>
      obtain ⟨result, deployed⟩ := named pending
      exact ⟨fun different => absurd rfl different, fun _ => ⟨result, programId, deployed, rfl⟩⟩

private theorem testsCall_mem_calls {first second : Result} {programId : String}
    (deployed : Yields (host.reply (Stage.rewardsCall desk.context) desk.world) first programId)
    (registered : Succeeds (host.reply (Stage.registryCall desk.context)
      (host.settle (Stage.rewardsCall desk.context) desk.world)) second) :
    Stage.testsCall desk.context programId ∈
      Event.calls (Bench.run host (.usual host) ⟨.fresh, desk⟩).events := by
  cases course_run host desk with
  | rewards fault failed ends =>
    exact absurd deployed (Desk.not_yields_of_failed host failed first programId)
  | registry first' programId' deployed' fault failed ends =>
    exact absurd registered (not_succeeds_of_failed host failed second)
  | tests first' second' programId' deployed' registered' fault failed ends =>
    rw [ends.calls_eq, (deployed.unique deployed').2]
    simp
  | done first' second' third programId' deployed' registered' tested ends =>
    rw [ends.calls_eq, (deployed.unique deployed').2]
    simp

end Calls

/-- The environment of a command is the one of the program with the variables of the call over it. Its
process sees just that, and it does what it would do if the program itself had them. The program keeps
its own, so that the commands of a run all start from the same environment. The rewards and the
registry command have exactly that one, and the tests have it with the parameter of the plan set to the
program id that the rewards command named in this run, whatever value it had. -/
theorem environment_of_commands :
    (∀ (call : Call) (world : World),
      let given := environmentFor world.environment call
      (call.overlay.getD [] = [] → given = world.environment) ∧
      (∀ extra, call.overlay = some extra → (Entries.names extra).Nodup → ∀ name,
        given.get? name = (extra.get? name).or (world.environment.get? name)) ∧
      (∀ place deadline,
        (stateFor world given place call deadline).process.environment = given) ∧
      (fault? world.environment call = none →
        let inherited := launch { call with overlay := none } { world with environment := given }
        launch call world =
          { inherited with world := { inherited.world with environment := world.environment } })) ∧
    Machine.host.Keeps World.environment ∧
    ∀ {σ : Type} (host : Host σ) (environmentOf : σ → Environment), host.Keeps environmentOf →
      ∀ desk : Desk σ,
        let context := desk.context
        let parameter := context.plan.parameter
        let rewards := Stage.rewardsCall context
        let first := host.reply rewards desk.world
        let second := host.reply (Stage.registryCall context) (host.settle rewards desk.world)
        let ran := Bench.run host (.usual host) ⟨.fresh, desk⟩
        let executed := Bench.executions host (.usual host) ⟨.fresh, desk⟩
        Event.calls ran.events = Event.calls (executed.flatMap (·.events host)) ∧
        environmentOf ran.state.desk.world = environmentOf desk.world ∧
        (∀ execution ∈ executed, ∀ call ∈ Event.calls (execution.events host),
          let own := environmentOf (host.tick execution.desk.world).2
          let given := environmentFor own call
          own = environmentOf desk.world ∧
          (execution.name ≠ Step.tests.name → given = own) ∧
          (execution.name = Step.tests.name → ∃ result programId, Yields first result programId ∧
            given = own.put parameter programId ∧ given.get? parameter = some programId ∧
            ∀ name, name ≠ parameter → given.get? name = own.get? name)) ∧
        ∀ result programId other, Yields first result programId → Succeeds second other →
          let tests := Stage.testsCall context programId
          tests ∈ Event.calls ran.events ∧
            ((environmentOf desk.world).IsSound → Environment.IsVariable parameter →
              (∀ word ∈ tests.argv, '\x00' ∉ word.toList) →
              '\x00' ∉ tests.directory.toString.toList →
                fault? (environmentOf desk.world) tests = none) := by
  refine ⟨fun call world => ⟨fun bare => Machine.environmentFor_of_bare bare _,
    fun extra laid distinct => Machine.get?_environmentFor laid distinct _,
    fun place => Machine.environment_stateFor world _ place call, Machine.launch_inherited⟩,
    Machine.host_keeps_environment, ?_⟩
  intro σ host environmentOf keeps desk context parameter rewards first second ran executed
  refine ⟨Bench.calls_run_usual host desk, ?_, ?_, ?_⟩
  · exact Bench.preserves_run host (.usual host) (keeps.runStage (environmentOf desk.world))
      ⟨.fresh, desk⟩ rfl
  · intro execution mem call called own given
    have started : environmentOf execution.desk.world = environmentOf desk.world :=
      Bench.holds_of_mem_executions host (keeps.runStage (environmentOf desk.world)) rfl mem
    obtain ⟨others, tests⟩ := call_of_execution host desk mem called
    refine ⟨(keeps.tick _).trans started, fun other => ?_, fun last => ?_⟩
    · exact Machine.environmentFor_of_bare (by rw [others other]; rfl) own
    · obtain ⟨result, programId, deployed, rfl⟩ := tests last
      exact ⟨result, programId, deployed, rfl, Entries.get?_put_self .., fun name different =>
        Entries.get?_put_of_ne programId own different⟩
  · intro result programId other deployed registered tests
    refine ⟨testsCall_mem_calls host desk deployed registered, fun sound named words placed => ?_⟩
    have last : context.plan.argument programId ∈ tests.argv := List.mem_append_right _ (by simp)
    have plain : '\x00' ∉ programId.toList := by
      intro mem
      refine words _ last ?_
      simp [Plan.argument, mem]
    exact Machine.fault?_of_variable sound rfl named plain ⟨List.ne_nil_of_mem last, words⟩ placed

example : environmentFor [("ID", "old"), ("B", "1")] ⟨[], .top, some [("ID", "new")], false, none⟩ =
    [("ID", "new"), ("B", "1")] := rfl

end Rollout
