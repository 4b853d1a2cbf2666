import Rollout.Proofs.Command
import Rollout.Proofs.Plan.Overriding
import Rollout.Proofs.Sequence.Course

/-!
Who is to blame for a failed run.

A run that fails names the step at which it stopped, and the kind of its fault tells which command
is the cause and how: a deploy that did not succeed, an output that names no program, or tests that
failed. No other fault ends a run on a host that raises none of its own.
-/

set_option autoImplicit false
set_option relaxedAutoImplicit false

namespace Rollout

inductive StepFault.Kind
  | plain
  | extraction
  | command (kind : CommandKind)
  deriving DecidableEq, Repr

def StepFault.kind : StepFault → StepFault.Kind
  | .plain .. => .plain
  | .extraction .. => .extraction
  | .command kind .. => .command kind

/-- A reply tells that its command did not succeed. -/
def Fails (reply : Except Fault Result) : Prop := ∃ result, reply = .ok result ∧ result.ok = false

/-- A reply tells that its command succeeded, but names no program. -/
def NamesNone (reply : Except Fault Result) : Prop :=
  ∃ result, Succeeds reply result ∧ ∀ programId, ¬ Token.Names (result.output.getD "") programId

section Replies

variable {reply : Except Fault Result} {result : Result}

theorem Succeeds.not_fails (success : Succeeds reply result) : ¬ Fails reply := by
  rintro ⟨other, replied, failed⟩
  obtain ⟨same, ended⟩ := success
  cases Except.ok.inj (same.symm.trans replied)
  rw [Result.ok_iff.mpr ended] at failed
  cases failed

theorem NamesNone.not_fails (unnamed : NamesNone reply) : ¬ Fails reply := by
  obtain ⟨result, success, -⟩ := unnamed
  exact success.not_fails

theorem Yields.not_namesNone {programId : String} (deployed : Yields reply result programId) :
    ¬ NamesNone reply := by
  rintro ⟨other, success, unnamed⟩
  cases Except.ok.inj (deployed.1.1.symm.trans success.1)
  exact unnamed programId deployed.2

end Replies

section Blame

variable {σ : Type} {host : Host σ}

private theorem blame_of_verdict (own : host.RaisesNoStepFault) {step : Step} {call : Call}
    {desk : Desk σ} {fault : StepFault}
    (failed : desk.verdict host step call = .error (.step fault)) :
    fault.step = (desk.context.plan.command step).name ∧
      (Fails (host.reply call desk.world) ∧ fault.kind = .command (Stage.kindOf step) ∨
        step = .rewards ∧ NamesNone (host.reply call desk.world) ∧ fault.kind = .extraction) := by
  rcases Desk.verdict_eq_error host failed with
    replied | ⟨result, replied, failure, told⟩ |
      ⟨result, reason, rfl, replied, success, found, told⟩
  · exact absurd replied (own _ _ _)
  · cases told
    exact ⟨rfl, .inl ⟨⟨result, replied, failure⟩, rfl⟩⟩
  · cases told
    refine ⟨rfl, .inr ⟨rfl, ⟨result, ⟨replied, Result.ok_iff.mp success⟩, ?_⟩, rfl⟩⟩
    intro programId names
    rw [Token.extract_eq_ok_iff.mpr names] at found
    cases found

private theorem report_of_ends (answers : ∀ call world, ∃ result, (host.launch call world).answer =
      .ok result) {step : Step} {call : Call} {before after : Desk σ} {fault : Fault}
    (failed : before.verdict host step call = .error fault) {ran : Ran (Bench σ) Report}
    {steps : List Step} {calls : List Call} (ends : Ends ran steps calls (some fault) after) :
    ∃ report, ran.answer = .ok report ∧ (report.phase = .failed ∨ report.phase = .done) := by
  obtain ⟨result, answered⟩ := answers call (host.tick before.world).2
  rcases Desk.verdict_eq_error host failed with
    replied | ⟨result, -, -, rfl⟩ | ⟨result, reason, -, -, -, -, rfl⟩
  · exact nomatch answered.symm.trans replied
  · exact ⟨_, ends.answer, .inl rfl⟩
  · exact ⟨_, ends.answer, .inl rfl⟩

variable (own : host.RaisesNoStepFault) (desk : Desk σ)
include own

private theorem blame_of_course {report : Report}
    (answer : (Bench.run host (.usual host) ⟨.fresh, desk⟩).answer = .ok report)
    {fault : StepFault} (reported : report.fault = some fault) :
    let context := desk.context
    let ran := Bench.run host (.usual host) ⟨.fresh, desk⟩
    let calls := Event.calls ran.events
    let rewards := Stage.rewardsCall context
    let registry := Stage.registryCall context
    let first := host.reply rewards desk.world
    let second := host.reply registry (host.settle rewards desk.world)
    let third (programId : String) := host.reply (Stage.testsCall context programId)
      (host.settle registry (host.settle rewards desk.world))
    ∃ step, (ran.state.sequencer.history.filterMap Phase.step?).getLast? = some step ∧
      fault.step = (context.plan.command step).name ∧
      (fault.kind = .extraction ↔ NamesNone first) ∧
      (fault.kind = .command .deploy ↔ Fails first ∨ registry ∈ calls ∧ Fails second) ∧
      (fault.kind = .command .tests ↔
        ∃ programId, Stage.testsCall context programId ∈ calls ∧ Fails (third programId)) ∧
      (fault.kind = .extraction ∨ fault.kind = .command .deploy ∨ fault.kind = .command .tests) := by
  intro context ran calls rewards registry first second third
  -- Each course ends at the stage that failed. The other kinds are ruled out because the commands
  -- before it succeeded and those behind it were not called.
  cases course_run host desk with
  | rewards raised failed ends =>
    cases ends.fault_eq answer reported
    have made : calls = [rewards] := ends.calls_eq
    have unregistered : registry ∉ calls := by
      simp [made, rewards, registry, Stage.registryCall_ne_rewardsCall]
    have untested : ∀ programId, Stage.testsCall context programId ∉ calls := by
      simp [made, rewards, Stage.testsCall_ne_rewardsCall]
    obtain ⟨step, ⟨fails, kind⟩ | ⟨-, unnamed, kind⟩⟩ := blame_of_verdict own failed
    · have fails : Fails first := fails
      have named : ¬ NamesNone first := fun unnamed => unnamed.not_fails fails
      have kind : fault.kind = .command .deploy := kind
      refine ⟨.rewards, congrArg List.getLast? ends.pending_eq, step, ?_⟩
      simp [kind, named, fails, unregistered, untested]
    · have unnamed : NamesNone first := unnamed
      refine ⟨.rewards, congrArg List.getLast? ends.pending_eq, step, ?_⟩
      simp [kind, unnamed, unnamed.not_fails, unregistered, untested]
  | registry result programId deployed raised failed ends =>
    cases ends.fault_eq answer reported
    have made : calls = [rewards, registry] := ends.calls_eq
    have untested : ∀ programId, Stage.testsCall context programId ∉ calls := by
      simp [made, rewards, registry, Stage.testsCall_ne_rewardsCall,
        Stage.testsCall_ne_registryCall]
    have registered : registry ∈ calls := by simp [made]
    have named : ¬ NamesNone first := deployed.not_namesNone
    have sound : ¬ Fails first := deployed.1.not_fails
    obtain ⟨step, ⟨fails, kind⟩ | ⟨wrong, -⟩⟩ := blame_of_verdict own failed
    · have fails : Fails second := fails
      have kind : fault.kind = .command .deploy := kind
      refine ⟨.registry, congrArg List.getLast? ends.pending_eq, step, ?_⟩
      simp [kind, named, sound, fails, registered, untested]
    · cases wrong
  | tests result registration programId deployed registered raised failed ends =>
    cases ends.fault_eq answer reported
    have made : calls = [rewards, registry, Stage.testsCall context programId] := ends.calls_eq
    have named : ¬ NamesNone first := deployed.not_namesNone
    have sound : ¬ Fails first := deployed.1.not_fails
    have soundToo : ¬ Fails second := registered.not_fails
    obtain ⟨step, ⟨fails, kind⟩ | ⟨wrong, -⟩⟩ := blame_of_verdict own failed
    · have tested : ∃ programId, Stage.testsCall context programId ∈ calls ∧
          Fails (third programId) := ⟨programId, by simp [made], fails⟩
      have kind : fault.kind = .command .tests := kind
      refine ⟨.tests, congrArg List.getLast? ends.pending_eq, step, ?_, ?_,
        iff_of_true kind tested, .inr (.inr kind)⟩
      · simp [kind, named]
      · simp [kind, sound, soundToo]
    · cases wrong
  | done first second third programId deployed registered tested ends =>
    cases ends.fault_eq answer reported

/-- A run fails at the step of the last phase that waited for a stage, and its report names that
step, with the exit code of its fault. The fault is that the rewards command named no program
exactly if that command succeeded and did not name one; it is a failed deploy exactly if the rewards
or the registry command did not succeed, and failed tests exactly if the tests did not; there is no
other kind. A run that is done reports no step and no fault. Where every command has a result, a run is
one or the other. -/
theorem blame_of_run
    (planned : (∃ make, desk.context.plan = .usual make) ∨
      ∃ disk make path, Plan.load disk make (some path) = .ok desk.context.plan) :
    let context := desk.context
    let ran := Bench.run host (.usual host) ⟨.fresh, desk⟩
    let calls := Event.calls ran.events
    let rewards := Stage.rewardsCall context
    let registry := Stage.registryCall context
    let first := host.reply rewards desk.world
    let second := host.reply registry (host.settle rewards desk.world)
    let third (programId : String) := host.reply (Stage.testsCall context programId)
      (host.settle registry (host.settle rewards desk.world))
    (∀ report, ran.answer = .ok report →
      report.phase = ran.state.sequencer.phase ∧
      (report.phase = .failed → ∃ fault step, report.fault = some fault ∧
        (ran.state.sequencer.history.filterMap Phase.step?).getLast? = some step ∧
        report.failedStep = some step.name ∧ fault.step = step.name ∧
        report.exitCode = fault.exitCode ∧
        (fault.kind = .extraction ↔ NamesNone first) ∧
        (fault.kind = .command .deploy ↔ Fails first ∨ registry ∈ calls ∧ Fails second) ∧
        (fault.kind = .command .tests ↔
          ∃ programId, Stage.testsCall context programId ∈ calls ∧ Fails (third programId)) ∧
        (fault.kind = .extraction ∨ fault.kind = .command .deploy ∨
          fault.kind = .command .tests)) ∧
      (report.phase = .done → report.failedStep = none ∧ report.fault = none)) ∧
    ((∀ call world, ∃ result, (host.launch call world).answer = .ok result) →
      ∃ report, ran.answer = .ok report ∧ (report.phase = .failed ∨ report.phase = .done)) := by
  intro context ran calls rewards registry first second third
  have named : context.plan.IsNamed := by
    rcases planned with ⟨make, usual⟩ | ⟨disk, make, path, loaded⟩
    · exact usual ▸ Plan.isNamed_usual make
    · exact Plan.isNamed_of_load loaded
  refine ⟨fun report answer => ?_, fun answers => ?_⟩
  · obtain ⟨steps, made, fault?, after, ends⟩ := exists_ends_run host desk
    rcases ends.report_cases answer with ⟨-, rfl, phase⟩ | ⟨fault, -, rfl, phase⟩
    · exact ⟨phase.symm, nofun, fun _ => ⟨rfl, rfl⟩⟩
    · refine ⟨phase.symm, fun _ => ?_, nofun⟩
      obtain ⟨step, last, told, kinds⟩ := blame_of_course own desk answer rfl
      have told : fault.step = step.name := told.trans (named step)
      exact ⟨fault, step, rfl, last, congrArg some told, told, rfl, kinds⟩
  · cases course_run host desk with
    | rewards fault failed ends => exact report_of_ends answers failed ends
    | registry first programId deployed fault failed ends =>
      exact report_of_ends answers failed ends
    | tests first second programId deployed registered fault failed ends =>
      exact report_of_ends answers failed ends
    | done first second third programId deployed registered tested ends =>
      exact ⟨_, ends.answer, .inr rfl⟩

end Blame

/-- Where the rewards command fails, its step is named, and the fault is a failed deploy. -/
theorem blame_of_run_refused :
    let host : Host Unit := .ending none (.exited 2) (.exited 0) (.exited 0)
    let desk : Desk Unit :=
      ⟨.start ⟨.top, none, none, "make", "INFO"⟩ (.usual "make") default, ()⟩
    let ran := Bench.run host (.usual host) ⟨.fresh, desk⟩
    Fails (host.reply (Stage.rewardsCall desk.context) desk.world) ∧
      ∃ report fault, ran.answer = .ok report ∧ report.phase = .failed ∧ report.exitCode = 2 ∧
        report.failedStep = some Step.rewards.name ∧ report.fault = some fault ∧
        fault.kind = .command .deploy := by
  intro host desk ran
  have own : host.RaisesNoStepFault := Host.ending_raisesNoStepFault _ _ _ _
  have fails : Fails (host.reply (Stage.rewardsCall desk.context) desk.world) := ⟨_, rfl, rfl⟩
  have failed : ∃ fault, desk.verdict host .rewards (Stage.rewardsCall desk.context) =
      .error (.step fault) ∧ fault.exitCode = 2 := ⟨_, rfl, rfl⟩
  obtain ⟨fault, failed, code⟩ := failed
  have ends := ends_of_rewards_failed host desk failed
  obtain ⟨told, -⟩ := blame_of_run own desk (.inl ⟨"make", rfl⟩)
  obtain ⟨other, step, reported, last, named, -, -, -, deploy, -⟩ := (told _ ends.answer).2.1 rfl
  have first : step = .rewards :=
    (Option.some.inj ((congrArg List.getLast? ends.pending_eq).symm.trans last)).symm
  exact ⟨fails, _, other, ends.answer, rfl, code, first ▸ named, reported,
    deploy.mpr (.inl fails)⟩

end Rollout
