import Rollout.Proofs.Command
import Rollout.Proofs.Sequence.Course

/-!
Runs from what earlier runs left.

A run of the usual stages does not depend on the outcomes that its context holds when it starts: it
makes the same calls, enters the same phases and ends alike. The tests are run with the id that the
rewards command named in this run, and the guards against a missing or a blank id never act. Only an
outcome of earlier tests can stay behind, where the tests of this run fail.
-/

set_option autoImplicit false
set_option relaxedAutoImplicit false

namespace Rollout

def Report.anonymous (report : Report) : Report := { report with programId := none }

/-- A desk with other outcomes in its context. -/
def Desk.holding {σ : Type} (outcomes : Entries Outcome) (desk : Desk σ) : Desk σ :=
  { desk with context := { desk.context with outcomes := outcomes } }

section Endings

variable {σ : Type} {ran : Ran (Bench σ) Report} {steps : List Step} {calls : List Call}
  {fault? : Option Fault} {after : Desk σ}

private theorem anonymous_close (context other : Context) (fault? : Option Fault) :
    (Close.of context fault?).answer.map Report.anonymous =
      (Close.of other fault?).answer.map Report.anonymous := by
  rcases fault? with _ | fault
  · rfl
  · cases fault <;> rfl

private theorem answer_close_congr {context other : Context}
    (programId : context.programId = other.programId) (fault? : Option Fault) :
    (Close.of context fault?).answer = (Close.of other fault?).answer := by
  rcases fault? with _ | fault
  · simp only [Close.of, programId]
  · cases fault <;> simp only [Close.of, programId]

theorem Ends.programId_eq (ends : Ends ran steps calls fault? after) {report : Report}
    (answer : ran.answer = .ok report) : report.programId = after.context.programId := by
  rcases ends.report_cases answer with ⟨-, rfl, -⟩ | ⟨fault, -, rfl, -⟩
  · rfl
  · rfl

private theorem Ends.pending_mem_iff (ends : Ends ran steps calls fault? after) {step : Step} :
    .pending step ∈ ran.state.sequencer.history ↔ step ∈ steps := by
  rw [ends.history_eq]
  rcases fault? with _ | fault
  · simp [Phase.closing]
  · cases fault <;> simp [Phase.closing]

private theorem Ends.done_mem_iff (ends : Ends ran steps calls fault? after) :
    .done ∈ ran.state.sequencer.history ↔ fault? = none := by
  rw [ends.history_eq]
  rcases fault? with _ | fault
  · simp [Phase.closing]
  · cases fault <;> simp [Phase.closing]

end Endings

section Leftovers

variable {σ : Type} (host : Host σ) (desk : Desk σ)

private theorem ends_holding (outcomes : Entries Outcome) :
    ∃ steps calls fault? after other,
      Ends (Bench.run host (.usual host) ⟨.fresh, desk⟩) steps calls fault? after ∧
        Ends (Bench.run host (.usual host) ⟨.fresh, desk.holding outcomes⟩) steps calls fault?
          other := by
  -- The calls and the replies are the same from both desks. So is what is made of a reply: the
  -- rewards and the registry stage read no outcome, and the tests read the one just recorded.
  cases course_run host desk with
  | rewards fault failed ends =>
    exact ⟨_, _, _, _, _, ends, ends_of_rewards_failed host (desk.holding outcomes) failed⟩
  | registry first programId deployed fault failed ends =>
    exact ⟨_, _, _, _, _, ends,
      ends_of_registry_failed host (desk.holding outcomes) deployed failed⟩
  | tests first second programId deployed registered fault failed ends =>
    have held := (Desk.callFor_tests host desk second deployed.2).1
    have heldToo := (Desk.callFor_tests host (desk.holding outcomes) second deployed.2).1
    have failedToo := (Desk.verdict_tests_congr host (heldToo.trans held.symm) rfl).trans failed
    exact ⟨_, _, _, _, _, ends, ends_of_tests_failed host (desk.holding outcomes) deployed
      registered failedToo⟩
  | done first second third programId deployed registered tested ends =>
    exact ⟨_, _, _, _, _, ends,
      ends_of_tested host (desk.holding outcomes) deployed registered tested⟩

private theorem outcomes_before_tests (first second : Result) (programId : String) :
    let outcomes := ((desk.afterRewards host first programId).afterRegistry host
      second).context.outcomes
    outcomes.get? Step.rewards.name =
        some ⟨desk.context.plan.rewards.name, some first, some programId⟩ ∧
      outcomes.get? Step.tests.name = desk.context.outcomes.get? Step.tests.name := by
  simp only [Desk.afterRegistry, Desk.afterRewards, Desk.passed, Context.record]
  constructor
  · rw [Entries.get?_put_of_ne _ _ (by decide), Entries.get?_put_self]
  · rw [Entries.get?_put_of_ne _ _ (by decide), Entries.get?_put_of_ne _ _ (by decide)]

theorem rewards_outcome_of_run {result : Result} {programId : String}
    (deployed : Yields (host.reply (Stage.rewardsCall desk.context) desk.world) result programId) :
    (Bench.run host (.usual host) ⟨.fresh, desk⟩).state.desk.context.outcomes.get?
        Step.rewards.name =
      some ⟨desk.context.plan.rewards.name, some result, some programId⟩ := by
  cases course_run host desk with
  | rewards fault failed ends =>
    exact absurd deployed (Desk.not_yields_of_failed host failed result programId)
  | registry first otherId named fault failed ends =>
    obtain ⟨rfl, rfl⟩ := deployed.unique named
    rw [ends.state]
    exact Entries.get?_put_self ..
  | tests first second otherId named registered fault failed ends =>
    obtain ⟨rfl, rfl⟩ := deployed.unique named
    rw [ends.state]
    exact (outcomes_before_tests host desk first second otherId).1
  | done first second third otherId named registered tested ends =>
    obtain ⟨rfl, rfl⟩ := deployed.unique named
    rw [ends.state]
    exact (Entries.get?_put_of_ne _ _ (by decide)).trans
      (outcomes_before_tests host desk first second otherId).1

private theorem tests_of_run :
    let ran := Bench.run host (.usual host) ⟨.fresh, desk⟩
    let outcomes := ran.state.desk.context.outcomes
    .pending .tests ∈ ran.state.sequencer.history →
      ∃ result programId,
        Yields (host.reply (Stage.rewardsCall desk.context) desk.world) result programId ∧
          Stage.testsCall desk.context programId ∈ Event.calls ran.events ∧
          (.done ∈ ran.state.sequencer.history → ∃ tested, outcomes.get? Step.tests.name =
            some ⟨desk.context.plan.tests.name, some tested, some programId⟩) ∧
          (.done ∉ ran.state.sequencer.history →
            outcomes.get? Step.tests.name = desk.context.outcomes.get? Step.tests.name) := by
  intro ran outcomes reached
  cases course_run host desk with
  | rewards fault failed ends =>
    have passedBy : Step.tests ∈ [Step.rewards] := ends.pending_mem_iff.mp reached
    exact absurd passedBy (by decide)
  | registry first programId deployed fault failed ends =>
    have passedBy : Step.tests ∈ [Step.rewards, Step.registry] := ends.pending_mem_iff.mp reached
    exact absurd passedBy (by decide)
  | tests first second programId deployed registered fault failed ends =>
    refine ⟨first, programId, deployed, ?_, fun done => ?_, fun _ => ?_⟩
    · simp [ran, ends.calls_eq]
    · exact nomatch ends.done_mem_iff.mp done
    · simp only [outcomes, ran, ends.state]
      exact (outcomes_before_tests host desk first second programId).2
  | done first second third programId deployed registered tested ends =>
    refine ⟨first, programId, deployed, ?_, fun _ => ⟨third, ?_⟩, fun unfinished => ?_⟩
    · simp [ran, ends.calls_eq]
    · simp only [outcomes, ran, ends.state]
      exact Entries.get?_put_self ..
    · exact absurd (ends.done_mem_iff.mpr rfl) unfinished

private theorem verdict_of_report {report : Report} {fault : StepFault}
    (answer : (Bench.run host (.usual host) ⟨.fresh, desk⟩).answer = .ok report)
    (reported : report.fault = some fault) :
    ∃ (step : Step) (call : Call) (before : Desk σ),
      before.verdict host step call = .error (.step fault) := by
  cases course_run host desk with
  | rewards raised failed ends =>
    cases ends.fault_eq answer reported
    exact ⟨_, _, _, failed⟩
  | registry first programId deployed raised failed ends =>
    cases ends.fault_eq answer reported
    exact ⟨_, _, _, failed⟩
  | tests first second programId deployed registered raised failed ends =>
    cases ends.fault_eq answer reported
    exact ⟨_, _, _, failed⟩
  | done first second third programId deployed registered tested ends =>
    cases ends.fault_eq answer reported

/-- Two runs from contexts that differ in their outcomes only make the same calls, take their
sequencers through the same phases and end alike, and they report the same program id once the
rewards command named one. A run that comes to the tests runs them with the id that it was told
itself; it reports that id and leaves it in the outcome of the rewards stage, and in that of the
tests if they succeed. The faults of the stages that come before a call are never reported. -/
theorem run_of_leftovers (outcomes : Entries Outcome) :
    let context := desk.context
    let ran := Bench.run host (.usual host) ⟨.fresh, desk⟩
    let other := Bench.run host (.usual host) ⟨.fresh, desk.holding outcomes⟩
    let reply := host.reply (Stage.rewardsCall context) desk.world
    let left := ran.state.desk.context.outcomes
    Event.calls other.events = Event.calls ran.events ∧
      other.state.sequencer = ran.state.sequencer ∧
      other.answer.map Report.anonymous = ran.answer.map Report.anonymous ∧
      (∀ result programId, Yields reply result programId →
        other.answer = ran.answer ∧
          ∀ report, ran.answer = .ok report → report.programId = some programId) ∧
      (.pending .tests ∈ ran.state.sequencer.history →
        ∃ result programId, Yields reply result programId ∧
          Stage.testsCall context programId ∈ Event.calls ran.events ∧
          (∀ report, ran.answer = .ok report → report.programId = some programId) ∧
          left.get? Step.rewards.name =
            some ⟨context.plan.rewards.name, some result, some programId⟩ ∧
          (.done ∈ ran.state.sequencer.history → ∃ tested, left.get? Step.tests.name =
            some ⟨context.plan.tests.name, some tested, some programId⟩) ∧
          (.done ∉ ran.state.sequencer.history →
            left.get? Step.tests.name = context.outcomes.get? Step.tests.name)) ∧
      (host.RaisesNoStepFault → ∀ report name reason code,
        ran.answer = .ok report → report.fault ≠ some (.plain name reason code)) := by
  intro context ran other reply left
  obtain ⟨steps, calls, fault?, after, otherAfter, ends, endsToo⟩ := ends_holding host desk outcomes
  have settled : ran.state.desk = after := congrArg Bench.desk ends.state
  have settledToo : other.state.desk = otherAfter := congrArg Bench.desk endsToo.state
  have named : ∀ {result programId}, Yields reply result programId →
      after.context.programId = some programId ∧
        otherAfter.context.programId = some programId := by
    intro result programId deployed
    rw [← settled, ← settledToo]
    have held := rewards_outcome_of_run host desk deployed
    have heldToo := rewards_outcome_of_run host (desk.holding outcomes) deployed
    exact ⟨congrArg (Option.bind · Outcome.programId) held,
      congrArg (Option.bind · Outcome.programId) heldToo⟩
  have told : ∀ {result programId}, Yields reply result programId →
      ∀ report, ran.answer = .ok report → report.programId = some programId := by
    intro result programId deployed report answer
    exact (ends.programId_eq answer).trans (named deployed).1
  refine ⟨endsToo.calls_eq.trans ends.calls_eq.symm, ?_, ?_, ?_, ?_, ?_⟩
  · simp only [ran, other, ends.state, endsToo.state]
  · rw [ends.answer, endsToo.answer]
    exact anonymous_close ..
  · intro result programId deployed
    refine ⟨?_, told deployed⟩
    obtain ⟨held, heldToo⟩ := named deployed
    rw [ends.answer, endsToo.answer]
    exact answer_close_congr (heldToo.trans held.symm) fault?
  · intro reached
    obtain ⟨result, programId, deployed, called, fresh, stale⟩ := tests_of_run host desk reached
    exact ⟨result, programId, deployed, called, told deployed,
      rewards_outcome_of_run host desk deployed, fresh, stale⟩
  · intro own report name reason code answer reported
    obtain ⟨step, call, before, failed⟩ := verdict_of_report host desk answer reported
    rcases Desk.verdict_error_cases host failed with replied | ⟨result, -, raised | ⟨_, raised⟩⟩
    · exact own _ _ _ replied
    · cases raised
    · cases raised

end Leftovers

/-- Where the tests of a run fail, the outcome of earlier tests stays, with the id of that time. -/
theorem tests_outcome_of_earlier_run_stays :
    let host := Host.ending (some "\x7bprogramId: new\x7d") (.exited 0) (.exited 0) (.exited 1)
    let desk : Desk Unit := ⟨.start ⟨.top, none, none, "make", "INFO"⟩ (.usual "make") default, ()⟩
    let ran := Bench.run host (.usual host)
      ⟨.fresh, desk.holding [("test-program", ⟨"test-program", none, some "old"⟩)]⟩
    let left := ran.state.desk.context.outcomes
    .pending .tests ∈ ran.state.sequencer.history ∧
      Stage.testsCall desk.context "new" ∈ Event.calls ran.events ∧
      (left.get? "deploy-rewards").bind (·.programId) = some "new" ∧
      (left.get? "test-program").bind (·.programId) = some "old" := by
  decide +kernel

end Rollout
