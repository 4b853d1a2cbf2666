import Rollout.Proofs.Sequence.Blame
import Rollout.Proofs.Sequence.Leftovers

/-!
Whose program id a run reports.

A report gives the id that the context holds at the end. Once the rewards command named a program that
is its id, whatever was there before. But a run whose rewards stage fails records nothing, and so an id
that was there before it is reported once more.
-/

set_option autoImplicit false
set_option relaxedAutoImplicit false

namespace Rollout

theorem Context.programId_eq_none_iff {context : Context} :
    context.programId = none ↔
      ∀ outcome, context.outcomes.get? Step.rewards.name = some outcome → outcome.programId = none :=
  Option.bind_eq_none_iff

section Reported

variable {σ : Type} (host : Host σ) (desk : Desk σ)

theorem not_yields_of_unsuccessful {reply : Except Fault Result}
    (unsuccessful : Fails reply ∨ NamesNone reply) (result : Result) (programId : String) :
    ¬ Yields reply result programId := by
  intro deployed
  rcases unsuccessful with fails | unnamed
  · exact deployed.1.not_fails fails
  · exact deployed.not_namesNone unnamed

theorem exists_stepFault_of_rewards_failed {fault : Fault}
    (failed : desk.verdict host .rewards (Stage.rewardsCall desk.context) = .error fault)
    (replied : ∃ result, host.reply (Stage.rewardsCall desk.context) desk.world = .ok result) :
    ∃ told : StepFault, fault = .step told := by
  obtain ⟨result, replied⟩ := replied
  rcases Desk.verdict_eq_error host failed with
    raised | ⟨other, -, -, rfl⟩ | ⟨other, reason, -, -, -, -, rfl⟩
  · cases replied.symm.trans raised
  · exact ⟨_, rfl⟩
  · exact ⟨_, rfl⟩

/-- A run whose rewards command names a program reports it. A run whose rewards stage fails leaves its
context as it was, and reports the id that the context held when it started: none exactly if no
outcome of the rewards stage with an id was there. -/
theorem programId_of_report :
    let context := desk.context
    let ran := Bench.run host (.usual host) ⟨.fresh, desk⟩
    let reply := host.reply (Stage.rewardsCall context) desk.world
    (Fails reply ∨ NamesNone reply →
      ran.state.desk.context = context ∧
        ∃ report, ran.answer = .ok report ∧ report.phase = .failed ∧
          report.programId = context.programId ∧
          (report.programId = none ↔ ∀ outcome,
            context.outcomes.get? Step.rewards.name = some outcome → outcome.programId = none)) ∧
      ∀ result programId, Yields reply result programId →
        ∀ report, ran.answer = .ok report → report.programId = some programId := by
  intro context ran reply
  constructor
  · intro unsuccessful
    have unnamed := not_yields_of_unsuccessful unsuccessful
    have replied : ∃ result, reply = .ok result := by
      rcases unsuccessful with ⟨result, replied, -⟩ | ⟨result, ⟨replied, -⟩, -⟩
      · exact ⟨result, replied⟩
      · exact ⟨result, replied⟩
    cases course_run host desk with
    | registry first programId deployed => exact absurd deployed (unnamed _ _)
    | tests first second programId deployed => exact absurd deployed (unnamed _ _)
    | done first second third programId deployed => exact absurd deployed (unnamed _ _)
    | rewards fault failed ends =>
      obtain ⟨told, rfl⟩ := exists_stepFault_of_rewards_failed host desk failed replied
      have left : ran.state.desk.context = context :=
        congrArg (fun bench => bench.desk.context) ends.state
      exact ⟨left, _, ends.answer, rfl, rfl, Context.programId_eq_none_iff⟩
  · intro result programId deployed report answer
    obtain ⟨steps, calls, fault?, after, ends⟩ := exists_ends_run host desk
    have held := rewards_outcome_of_run host desk deployed
    rw [ends.state] at held
    have named : after.context.programId = some programId :=
      congrArg (Option.bind · Outcome.programId) held
    exact (ends.programId_eq answer).trans named

end Reported

/-- A rewards command that fails leaves the id of an earlier deploy in the report. -/
theorem programId_of_earlier_run_reported :
    let host := Host.ending none (.exited 1) (.exited 0) (.exited 0)
    let desk : Desk Unit := ⟨.start ⟨.top, none, none, "make", "INFO"⟩ (.usual "make") default, ()⟩
    let before := desk.holding [("deploy-rewards", ⟨"deploy-rewards", none, some "old"⟩)]
    let ran := Bench.run host (.usual host) ⟨.fresh, before⟩
    Fails (host.reply (Stage.rewardsCall before.context) before.world) ∧
      ran.answer.toOption.bind (·.programId) = some "old" := by
  intro host desk before ran
  exact ⟨⟨_, rfl, rfl⟩, by decide +kernel⟩

end Rollout
