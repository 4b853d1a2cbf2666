import Rollout.Proofs.Sequence.Attempts
import Rollout.Proofs.Stage.Running
import Rollout.Proofs.Token.Occurrences

/-!
The courses that a run of the usual stages can take.

A run calls the rewards command, then the registry command, then the tests, and it goes on only
after a command that succeeded. So it takes one of four courses: it ends at one of the three steps,
or it is done. Which of them it takes is decided by the replies to its calls.
-/

set_option autoImplicit false
set_option relaxedAutoImplicit false

namespace Rollout

/-- A reply tells that its command succeeded: its status is zero and it ended in time. -/
def Succeeds (reply : Except Fault Result) (result : Result) : Prop :=
  reply = .ok result ∧ result.status = 0 ∧ result.timedOut = false

/-- A reply tells that its command succeeded and names a program. -/
def Yields (reply : Except Fault Result) (result : Result) (programId : String) : Prop :=
  Succeeds reply result ∧ Token.Names (result.output.getD "") programId

theorem Yields.unique {reply : Except Fault Result} {result other : Result}
    {programId otherId : String} (one : Yields reply result programId)
    (two : Yields reply other otherId) : other = result ∧ otherId = programId := by
  have same : other = result := Except.ok.inj (two.1.1.symm.trans one.1.1)
  subst same
  exact ⟨rfl, two.2.unique one.2⟩

theorem Result.ok_iff {result : Result} :
    result.ok = true ↔ result.status = 0 ∧ result.timedOut = false := by
  simp [Result.ok]

namespace Desk

variable {σ : Type} (host : Host σ)

/-- The desk after a stage that made a call and returned an outcome. -/
def passed (step : Step) (call : Call) (outcome : Outcome) (desk : Desk σ) : Desk σ :=
  ⟨desk.context.record step.name outcome, host.settle call desk.world⟩

/-- The desk after a stage that made a call and did not return. -/
def spoiled (call : Call) (desk : Desk σ) : Desk σ := ⟨desk.context, host.spoil call desk.world⟩

def afterRewards (result : Result) (programId : String) (desk : Desk σ) : Desk σ :=
  desk.passed host .rewards (Stage.rewardsCall desk.context)
    ⟨desk.context.plan.rewards.name, some result, some programId⟩

def afterRegistry (result : Result) (desk : Desk σ) : Desk σ :=
  desk.passed host .registry (Stage.registryCall desk.context)
    ⟨desk.context.plan.registry.name, some result, none⟩

def afterTests (result : Result) (programId : String) (desk : Desk σ) : Desk σ :=
  desk.passed host .tests (Stage.testsCall desk.context programId)
    ⟨desk.context.plan.tests.name, some result, some programId⟩

theorem verdict_of_succeeds {step : Step} {call : Call} {desk : Desk σ} {result : Result}
    (success : Succeeds (host.reply call desk.world) result) :
    verdict host step call desk =
      (Stage.handedOn desk.context result step).map fun programId =>
        ⟨(desk.context.plan.command step).name, some result, programId⟩ := by
  obtain ⟨reply, success⟩ := success
  simp only [verdict, reply, Except.bind, Stage.judge, Result.ok_iff.mpr success, if_true]

theorem verdict_rewards_of_succeeds {call : Call} {desk : Desk σ} {result : Result}
    (success : Succeeds (host.reply call desk.world) result) :
    verdict host .rewards call desk =
      ((Stage.programIdIn desk.context.plan.rewards.name result.output).map fun programId =>
        ⟨desk.context.plan.rewards.name, some result, some programId⟩).mapError .step := by
  rw [verdict_of_succeeds host success]
  simp only [Stage.handedOn, Stage.programIdIn]
  cases Token.extract (result.output.getD "") <;> rfl

theorem verdict_eq_ok_iff {step : Step} {call : Call} {desk : Desk σ} {outcome : Outcome} :
    verdict host step call desk = .ok outcome ↔
      ∃ result programId, Succeeds (host.reply call desk.world) result ∧
        Stage.handedOn desk.context result step = .ok programId ∧
        outcome = ⟨(desk.context.plan.command step).name, some result, programId⟩ := by
  constructor
  · intro returned
    unfold verdict at returned
    cases reply : host.reply call desk.world with
    | error fault =>
      rw [reply] at returned
      cases returned
    | ok result =>
      rw [reply] at returned
      simp only [Except.bind, Stage.judge] at returned
      split at returned
      · rename_i success
        cases handed : Stage.handedOn desk.context result step with
        | error fault =>
          rw [handed] at returned
          cases returned
        | ok programId =>
          rw [handed] at returned
          cases returned
          exact ⟨result, programId, ⟨rfl, Result.ok_iff.mp success⟩, handed, rfl⟩
      · cases returned
  · rintro ⟨result, programId, success, handed, rfl⟩
    rw [verdict_of_succeeds host success, handed]
    rfl

theorem verdict_eq_error {step : Step} {call : Call} {desk : Desk σ} {fault : Fault}
    (failed : verdict host step call desk = .error fault) :
    host.reply call desk.world = .error fault ∨
      (∃ result, host.reply call desk.world = .ok result ∧ result.ok = false ∧
        fault = .step (.command (Stage.kindOf step) (desk.context.plan.command step).name result)) ∨
      ∃ result reason, step = .rewards ∧ host.reply call desk.world = .ok result ∧
        result.ok = true ∧ Token.extract (result.output.getD "") = .error reason ∧
        fault = .step (.extraction desk.context.plan.rewards.name (.token reason) 1) := by
  unfold verdict at failed
  cases reply : host.reply call desk.world with
  | error raised =>
    rw [reply] at failed
    cases failed
    exact .inl rfl
  | ok result =>
    rw [reply] at failed
    simp only [Except.bind, Stage.judge] at failed
    split at failed
    · rename_i success
      cases step with
      | rewards =>
        cases extracted : Token.extract (result.output.getD "") with
        | error reason =>
          simp only [Stage.handedOn, extracted] at failed
          cases failed
          exact .inr (.inr ⟨result, reason, rfl, rfl, success, extracted, rfl⟩)
        | ok programId =>
          simp only [Stage.handedOn, extracted] at failed
          cases failed
      | registry => cases failed
      | tests => cases failed
    · rename_i failure
      cases failed
      exact .inr (.inl ⟨result, rfl, by simpa using failure, rfl⟩)

theorem verdict_error_cases {step : Step} {call : Call} {desk : Desk σ} {fault : Fault}
    (failed : verdict host step call desk = .error fault) :
    host.reply call desk.world = .error fault ∨
      ∃ result, host.reply call desk.world = .ok result ∧
        (fault = .step (.command (Stage.kindOf step) (desk.context.plan.command step).name result) ∨
          ∃ reason,
            fault = .step (.extraction desk.context.plan.rewards.name (.token reason) 1)) := by
  rcases verdict_eq_error host failed with
    replied | ⟨result, replied, -, told⟩ | ⟨result, reason, -, replied, -, -, told⟩
  · exact .inl replied
  · exact .inr ⟨result, replied, .inl told⟩
  · exact .inr ⟨result, replied, .inr ⟨reason, told⟩⟩

theorem verdict_rewards_eq_ok_iff {call : Call} {desk : Desk σ} {outcome : Outcome} :
    verdict host .rewards call desk = .ok outcome ↔
      ∃ result programId, Yields (host.reply call desk.world) result programId ∧
        outcome = ⟨desk.context.plan.rewards.name, some result, some programId⟩ := by
  rw [verdict_eq_ok_iff]
  constructor
  · rintro ⟨result, programId?, success, handed, rfl⟩
    cases extracted : Token.extract (result.output.getD "") with
    | error fault =>
      simp only [Stage.handedOn, extracted] at handed
      cases handed
    | ok programId =>
      simp only [Stage.handedOn, extracted] at handed
      cases handed
      exact ⟨result, programId, ⟨success, Token.extract_eq_ok_iff.mp extracted⟩, rfl⟩
  · rintro ⟨result, programId, ⟨success, names⟩, rfl⟩
    refine ⟨result, some programId, success, ?_, rfl⟩
    simp only [Stage.handedOn, Token.extract_eq_ok_iff.mpr names]

theorem verdict_registry_eq_ok_iff {call : Call} {desk : Desk σ} {outcome : Outcome} :
    verdict host .registry call desk = .ok outcome ↔
      ∃ result, Succeeds (host.reply call desk.world) result ∧
        outcome = ⟨desk.context.plan.registry.name, some result, none⟩ := by
  rw [verdict_eq_ok_iff]
  constructor
  · rintro ⟨result, programId?, success, handed, rfl⟩
    cases handed
    exact ⟨result, success, rfl⟩
  · rintro ⟨result, success, rfl⟩
    exact ⟨result, none, success, rfl, rfl⟩

theorem verdict_tests_eq_ok_iff {call : Call} {desk : Desk σ} {outcome : Outcome} :
    verdict host .tests call desk = .ok outcome ↔
      ∃ result, Succeeds (host.reply call desk.world) result ∧
        outcome = ⟨desk.context.plan.tests.name, some result, desk.context.programId⟩ := by
  rw [verdict_eq_ok_iff]
  constructor
  · rintro ⟨result, programId?, success, handed, rfl⟩
    cases handed
    exact ⟨result, success, rfl⟩
  · rintro ⟨result, success, rfl⟩
    exact ⟨result, _, success, rfl, rfl⟩

theorem verdict_tests_congr {context other : Context} {world : σ} {call : Call}
    (programId : context.programId = other.programId) (plan : context.plan = other.plan) :
    verdict host .tests call ⟨context, world⟩ = verdict host .tests call ⟨other, world⟩ := by
  have judged : Stage.judge context .tests = Stage.judge other .tests := by
    funext result
    simp only [Stage.judge, Stage.handedOn, plan, programId]
  exact congrArg (Except.bind _) judged

theorem callFor_tests (desk : Desk σ) {first : Result} (second : Result) {programId : String}
    (names : Token.Names (first.output.getD "") programId) :
    ((desk.afterRewards host first programId).afterRegistry host second).context.programId =
        some programId ∧
      Stage.callFor ((desk.afterRewards host first programId).afterRegistry host second).context
        .tests = .ok (Stage.testsCall desk.context programId) := by
  have held : ((desk.afterRewards host first programId).afterRegistry host second).context.programId
      = some programId := by
    simp only [Context.programId, afterRegistry, afterRewards, passed, Context.record]
    rw [Entries.get?_put_of_ne _ _ (by decide), Entries.get?_put_self]
    rfl
  refine ⟨held, ?_⟩
  simp only [Stage.callFor, Stage.readyProgramId_eq_ok held names.2]
  rfl

theorem programId_afterTests (desk : Desk σ) (first second third : Result) (programId : String) :
    (((desk.afterRewards host first programId).afterRegistry host second).afterTests host third
      programId).context.programId = some programId := by
  simp only [Context.programId, afterTests, afterRegistry, afterRewards, passed, Context.record]
  rw [Entries.get?_put_of_ne _ _ (by decide), Entries.get?_put_of_ne _ _ (by decide),
    Entries.get?_put_self]
  rfl

theorem not_yields_of_failed {desk : Desk σ} {call : Call} {fault : Fault}
    (failed : verdict host .rewards call desk = .error fault) (result : Result)
    (programId : String) : ¬ Yields (host.reply call desk.world) result programId := by
  intro deployed
  have returned := (verdict_rewards_eq_ok_iff host).mpr ⟨result, programId, deployed, rfl⟩
  rw [failed] at returned
  cases returned

end Desk

/-- How a run of a fresh sequencer ended: the steps whose stages were run, the calls that were made,
the fault that ended it, if any, and the desk that it left. -/
structure Ends {σ : Type} (ran : Ran (Bench σ) Report) (steps : List Step) (calls : List Call)
    (fault? : Option Fault) (desk : Desk σ) : Prop where
  answer : ran.answer = (Close.of desk.context fault?).answer
  deeds : Event.deeds ran.events = calls.map .call
  state : ran.state = ⟨Sequencer.fresh.enterAll (steps.map .pending ++ Phase.closing fault?), desk⟩

namespace Ends

variable {σ : Type} {ran : Ran (Bench σ) Report} {steps : List Step} {calls : List Call}
  {fault? : Option Fault} {desk : Desk σ} {report : Report}

theorem calls_eq (ends : Ends ran steps calls fault? desk) : Event.calls ran.events = calls := by
  rw [← Event.calls_deeds, ends.deeds, Event.calls_map_call]

theorem history_eq (ends : Ends ran steps calls fault? desk) :
    ran.state.sequencer.history = steps.map .pending ++ Phase.closing fault? := by
  rw [ends.state, Sequencer.history_enterAll]
  rfl

theorem pending_eq (ends : Ends ran steps calls fault? desk) :
    ran.state.sequencer.history.filterMap Phase.step? = steps := by
  rw [ends.history_eq, Phase.filterMap_step?_entered]

theorem report_cases (ends : Ends ran steps calls fault? desk) (answer : ran.answer = .ok report) :
    (fault? = none ∧ report = ⟨.done, 0, desk.context.programId, none⟩ ∧
        ran.state.sequencer.phase = .done) ∨
      ∃ fault, fault? = some (.step fault) ∧
        report = ⟨.failed, fault.exitCode, desk.context.programId, some fault⟩ ∧
        ran.state.sequencer.phase = .failed := by
  have phase : ran.state.sequencer.phase =
      (steps.map Phase.pending ++ Phase.closing fault?).getLast?.getD (.pending .rewards) := by
    rw [ends.state]
    exact Sequencer.phase_enterAll ..
  have closed := ends.answer.symm.trans answer
  rcases fault? with _ | fault
  · cases closed
    exact .inl ⟨rfl, rfl, by simpa [Phase.closing] using phase⟩
  · cases fault with
    | step fault =>
      cases closed
      exact .inr ⟨fault, rfl, rfl, by simpa [Phase.closing] using phase⟩
    | _ => cases closed

theorem fault_eq (ends : Ends ran steps calls fault? desk) (answer : ran.answer = .ok report)
    {fault : StepFault} (reported : report.fault = some fault) : fault? = some (.step fault) := by
  rcases ends.report_cases answer with ⟨-, rfl, -⟩ | ⟨raised, ended, rfl, -⟩
  · cases reported
  · cases reported
    exact ended

theorem fault_eq_none (ends : Ends ran steps calls fault? desk) (answer : ran.answer = .ok report)
    (done : report.phase = .done) : fault? = none := by
  rcases ends.report_cases answer with ⟨unfaulted, -⟩ | ⟨fault, -, rfl, -⟩
  · exact unfaulted
  · cases done

end Ends

section Courses

variable {σ : Type} (host : Host σ)

/-- What attempts from a desk leave: their steps, the calls that were made, the fault that ended
them, if any, and the desk after them. -/
private structure Leave (desk : Desk σ) (tried : List (Attempt σ)) (steps : List Step)
    (calls : List Call) (fault? : Option Fault) (after : Desk σ) : Prop where
  steps : tried.map (·.step) = steps
  deeds : Event.deeds (eventsOf tried) = calls.map .call
  fault : faultOf tried = fault?
  after : deskAfter desk tried = after

private theorem leave_nil (desk : Desk σ) :
    Leave desk (attempts host (.usual host) [] desk) [] [] none desk := ⟨rfl, rfl, rfl, rfl⟩

private theorem leave_of_error {desk : Desk σ} {step : Step} {call : Call} {fault : Fault}
    (made : Stage.callFor desk.context step = .ok call)
    (failed : desk.verdict host step call = .error fault) (rest : List Step) :
    Leave desk (attempts host (.usual host) (step :: rest) desk) [step] [call] (some fault)
      (desk.spoiled host call) := by
  obtain ⟨answer, deeds, state⟩ := Desk.runStage_usual_of_error host made failed
  rw [attempts_of_error host _ answer]
  refine ⟨rfl, ?_, ?_, state⟩
  · simpa [eventsOf] using deeds
  · simp [faultOf, Attempt.fault?, answer]

private theorem leave_of_ok {desk after : Desk σ} {step : Step} {call : Call} {outcome : Outcome}
    (made : Stage.callFor desk.context step = .ok call)
    (returned : desk.verdict host step call = .ok outcome) {rest steps : List Step}
    {calls : List Call} {fault? : Option Fault}
    (leave : Leave (desk.passed host step call outcome)
      (attempts host (.usual host) rest (desk.passed host step call outcome))
      steps calls fault? after) :
    Leave desk (attempts host (.usual host) (step :: rest) desk) (step :: steps) (call :: calls)
      fault? after := by
  obtain ⟨answer, deeds, state⟩ := Desk.runStage_usual_of_ok host made returned
  have left : (Desk.runStage host (.usual host) step.name desk).state =
      desk.passed host step call outcome := state
  rw [attempts_of_ok host _ answer, left]
  refine ⟨congrArg (step :: ·) leave.steps, ?_, ?_, ?_⟩
  · rw [eventsOf, List.flatMap_cons, Event.deeds_append, deeds]
    exact congrArg (Event.call call :: ·) leave.deeds
  · simpa [faultOf, Attempt.fault?, answer] using leave.fault
  · rw [deskAfter, List.foldl_cons, left]
    exact leave.after

private theorem deeds_close (context : Context) (fault? : Option Fault) :
    Event.deeds (Close.of context fault?).events = [] := by
  rcases fault? with _ | fault
  · rfl
  · cases fault <;> rfl

private theorem Leave.ends {desk after : Desk σ} {tried : List (Attempt σ)} {steps : List Step}
    {calls : List Call} {fault? : Option Fault}
    (leave : Leave desk tried steps calls fault? after) :
    Ends (Bench.told ⟨.fresh, desk⟩ tried) steps calls fault? after := by
  obtain ⟨rfl, deeds, rfl, rfl⟩ := leave
  refine ⟨rfl, ?_, ?_⟩
  · exact (Event.deeds_append _ _).trans (by rw [deeds, deeds_close, List.append_nil])
  · rw [List.map_map]
    rfl

variable (desk : Desk σ)

private theorem run_usual_eq_told :
    Bench.run host (.usual host) ⟨.fresh, desk⟩ =
      Bench.told ⟨.fresh, desk⟩ (attempts host (.usual host) Step.all desk) :=
  Bench.run_eq_told host _ rfl (Catalogue.missing_usual host)

theorem ends_of_rewards_failed {fault : Fault}
    (failed : desk.verdict host .rewards (Stage.rewardsCall desk.context) = .error fault) :
    Ends (Bench.run host (.usual host) ⟨.fresh, desk⟩) [.rewards] [Stage.rewardsCall desk.context]
      (some fault) (desk.spoiled host (Stage.rewardsCall desk.context)) := by
  have made : Stage.callFor desk.context .rewards = .ok (Stage.rewardsCall desk.context) := rfl
  rw [run_usual_eq_told]
  exact (leave_of_error host made failed _).ends

section Deployed

variable {first : Result} {programId : String}
  (deployed : Yields (host.reply (Stage.rewardsCall desk.context) desk.world) first programId)
include deployed

private theorem leave_of_deployed {steps rest : List Step} {calls : List Call}
    {fault? : Option Fault} {after : Desk σ}
    (leave : Leave (desk.afterRewards host first programId)
      (attempts host (.usual host) rest (desk.afterRewards host first programId))
      steps calls fault? after) :
    Leave desk (attempts host (.usual host) (.rewards :: rest) desk) (.rewards :: steps)
      (Stage.rewardsCall desk.context :: calls) fault? after :=
  leave_of_ok host rfl ((Desk.verdict_rewards_eq_ok_iff host).mpr ⟨first, programId, deployed, rfl⟩)
    leave

theorem ends_of_registry_failed {fault : Fault}
    (failed : (desk.afterRewards host first programId).verdict host .registry
      (Stage.registryCall desk.context) = .error fault) :
    Ends (Bench.run host (.usual host) ⟨.fresh, desk⟩) [.rewards, .registry]
      [Stage.rewardsCall desk.context, Stage.registryCall desk.context] (some fault)
      ((desk.afterRewards host first programId).spoiled host
        (Stage.registryCall desk.context)) := by
  have made : Stage.callFor (desk.afterRewards host first programId).context .registry =
      .ok (Stage.registryCall desk.context) := rfl
  rw [run_usual_eq_told]
  exact (leave_of_deployed host desk deployed (leave_of_error host made failed [.tests])).ends

variable {second : Result}
  (registered : Succeeds (host.reply (Stage.registryCall desk.context)
    (desk.afterRewards host first programId).world) second)
include registered

private theorem leave_of_registered {steps rest : List Step} {calls : List Call}
    {fault? : Option Fault} {after : Desk σ}
    (leave : Leave ((desk.afterRewards host first programId).afterRegistry host second)
      (attempts host (.usual host) rest
        ((desk.afterRewards host first programId).afterRegistry host second))
      steps calls fault? after) :
    Leave desk (attempts host (.usual host) (.rewards :: .registry :: rest) desk)
      (.rewards :: .registry :: steps)
      (Stage.rewardsCall desk.context :: Stage.registryCall desk.context :: calls) fault? after :=
  leave_of_deployed host desk deployed
    (leave_of_ok host rfl ((Desk.verdict_registry_eq_ok_iff host).mpr ⟨second, registered, rfl⟩)
      leave)

theorem ends_of_tests_failed {fault : Fault}
    (failed : ((desk.afterRewards host first programId).afterRegistry host second).verdict host
      .tests (Stage.testsCall desk.context programId) = .error fault) :
    Ends (Bench.run host (.usual host) ⟨.fresh, desk⟩) Step.all
      [Stage.rewardsCall desk.context, Stage.registryCall desk.context,
        Stage.testsCall desk.context programId] (some fault)
      (((desk.afterRewards host first programId).afterRegistry host second).spoiled host
        (Stage.testsCall desk.context programId)) := by
  have made := (Desk.callFor_tests host desk second deployed.2).2
  rw [run_usual_eq_told]
  exact (leave_of_registered host desk deployed registered
    (leave_of_error host made failed [])).ends

theorem ends_of_tested {third : Result}
    (tested : Succeeds (host.reply (Stage.testsCall desk.context programId)
      ((desk.afterRewards host first programId).afterRegistry host second).world) third) :
    Ends (Bench.run host (.usual host) ⟨.fresh, desk⟩) Step.all
      [Stage.rewardsCall desk.context, Stage.registryCall desk.context,
        Stage.testsCall desk.context programId] none
      (((desk.afterRewards host first programId).afterRegistry host second).afterTests host third
        programId) := by
  obtain ⟨held, made⟩ := Desk.callFor_tests host desk second deployed.2
  have returned := (Desk.verdict_tests_eq_ok_iff host).mpr ⟨third, tested, rfl⟩
  rw [held] at returned
  rw [run_usual_eq_told]
  exact (leave_of_registered host desk deployed registered
    (leave_of_ok host made returned (leave_nil host _))).ends

end Deployed

/-- The courses that a run of the usual stages can take from a desk. -/
inductive Course (ran : Ran (Bench σ) Report) : Prop
  | rewards (fault : Fault)
      (failed : desk.verdict host .rewards (Stage.rewardsCall desk.context) = .error fault)
      (ends : Ends ran [.rewards] [Stage.rewardsCall desk.context] (some fault)
        (desk.spoiled host (Stage.rewardsCall desk.context)))
  | registry (first : Result) (programId : String)
      (deployed : Yields (host.reply (Stage.rewardsCall desk.context) desk.world) first programId)
      (fault : Fault)
      (failed : (desk.afterRewards host first programId).verdict host .registry
        (Stage.registryCall desk.context) = .error fault)
      (ends : Ends ran [.rewards, .registry]
        [Stage.rewardsCall desk.context, Stage.registryCall desk.context] (some fault)
        ((desk.afterRewards host first programId).spoiled host (Stage.registryCall desk.context)))
  | tests (first second : Result) (programId : String)
      (deployed : Yields (host.reply (Stage.rewardsCall desk.context) desk.world) first programId)
      (registered : Succeeds (host.reply (Stage.registryCall desk.context)
        (desk.afterRewards host first programId).world) second)
      (fault : Fault)
      (failed : ((desk.afterRewards host first programId).afterRegistry host second).verdict host
        .tests (Stage.testsCall desk.context programId) = .error fault)
      (ends : Ends ran Step.all
        [Stage.rewardsCall desk.context, Stage.registryCall desk.context,
          Stage.testsCall desk.context programId] (some fault)
        (((desk.afterRewards host first programId).afterRegistry host second).spoiled host
          (Stage.testsCall desk.context programId)))
  | done (first second third : Result) (programId : String)
      (deployed : Yields (host.reply (Stage.rewardsCall desk.context) desk.world) first programId)
      (registered : Succeeds (host.reply (Stage.registryCall desk.context)
        (desk.afterRewards host first programId).world) second)
      (tested : Succeeds (host.reply (Stage.testsCall desk.context programId)
        ((desk.afterRewards host first programId).afterRegistry host second).world) third)
      (ends : Ends ran Step.all
        [Stage.rewardsCall desk.context, Stage.registryCall desk.context,
          Stage.testsCall desk.context programId] none
        (((desk.afterRewards host first programId).afterRegistry host second).afterTests host third
          programId))

theorem course_run : Course host desk (Bench.run host (.usual host) ⟨.fresh, desk⟩) := by
  cases verdict₁ : desk.verdict host .rewards (Stage.rewardsCall desk.context) with
  | error fault => exact .rewards fault verdict₁ (ends_of_rewards_failed host desk verdict₁)
  | ok outcome₁ =>
    obtain ⟨first, programId, deployed, rfl⟩ := (Desk.verdict_rewards_eq_ok_iff host).mp verdict₁
    cases verdict₂ : (desk.afterRewards host first programId).verdict host .registry
        (Stage.registryCall desk.context) with
    | error fault =>
      exact .registry first programId deployed fault verdict₂
        (ends_of_registry_failed host desk deployed verdict₂)
    | ok outcome₂ =>
      obtain ⟨second, registered, rfl⟩ := (Desk.verdict_registry_eq_ok_iff host).mp verdict₂
      cases verdict₃ : ((desk.afterRewards host first programId).afterRegistry host second).verdict
          host .tests (Stage.testsCall desk.context programId) with
      | error fault =>
        exact .tests first second programId deployed registered fault verdict₃
          (ends_of_tests_failed host desk deployed registered verdict₃)
      | ok outcome₃ =>
        obtain ⟨third, tested, rfl⟩ := (Desk.verdict_tests_eq_ok_iff host).mp verdict₃
        exact .done first second third programId deployed registered tested
          (ends_of_tested host desk deployed registered tested)

theorem exists_ends_run : ∃ steps calls fault? after,
    Ends (Bench.run host (.usual host) ⟨.fresh, desk⟩) steps calls fault? after := by
  cases course_run host desk with
  | rewards fault failed ends => exact ⟨_, _, _, _, ends⟩
  | registry first programId deployed fault failed ends => exact ⟨_, _, _, _, ends⟩
  | tests first second programId deployed registered fault failed ends => exact ⟨_, _, _, _, ends⟩
  | done first second third programId deployed registered tested ends => exact ⟨_, _, _, _, ends⟩

end Courses

end Rollout
