import Rollout.Proofs.Catalogue.Registration
import Rollout.Proofs.Stage.Running

/-!
What a stage that is run changes.

The running of a stage answers as the stage does. It writes one outcome at most, the one that the
stage returned, under the name of the stage. A stage that returns none or fails leaves no outcome,
and the run of a stage that is not in the catalogue leaves nothing at all.
-/

set_option autoImplicit false
set_option relaxedAutoImplicit false

namespace Rollout

/-- Entries in which a value was set under a name: it is in the place of the value that was there,
or at the end where there was none, and all others are as they were. -/
structure Entries.IsSet {α : Type} (name : String) (value : α) (before after : Entries α) :
    Prop where
  placed (front : Entries α) (old : α) (back : Entries α) :
    before = front ++ (name, old) :: back → name ∉ names front →
      after = front ++ (name, value) :: back
  added : name ∉ names before → after = before ++ [(name, value)]

theorem Entries.isSet_put {α : Type} (name : String) (value : α) (entries : Entries α) :
    IsSet name value entries (put name value entries) where
  placed := by
    rintro front old back rfl absent
    exact put_append_cons absent value old back
  added absent := put_of_not_mem absent value

theorem Context.get?_recorded_of_ne {name other : String} (context : Context)
    (outcome : Option Outcome) (apart : other ≠ name) :
    (context.recorded name outcome).outcomes.get? other = context.outcomes.get? other := by
  cases outcome with
  | none => rfl
  | some outcome => exact Entries.get?_put_of_ne outcome _ apart

namespace Desk

variable {σ : Type} (host : Host σ) (catalogue : Catalogue σ)

theorem answer_of_runStage {name : String} {stage : Stage σ}
    (found : catalogue.find name = .ok stage) (desk : Desk σ) :
    let ran := runStage host catalogue name desk
    let did := stage.action desk.context (host.tick desk.world).2
    ran.answer = did.answer ∧ Event.deeds ran.events = Event.deeds did.events := by
  intro ran did
  cases answer : did.answer with
  | ok outcome =>
    simp only [ran, runStage_of_ok host found desk answer]
    exact ⟨trivial, (Event.deeds_append ..).trans (List.append_nil _)⟩
  | error fault =>
    simp only [ran, runStage_of_error host found desk answer]
    refine ⟨trivial, (Event.deeds_append ..).trans ?_⟩
    rw [deeds_failures, List.append_nil]

theorem context_of_runStage (name : String) (desk : Desk σ) :
    let ran := runStage host catalogue name desk
    ran.state.context = desk.context.recorded name ran.answer.toOption.join := by
  intro ran
  cases answer : ran.answer with
  | error fault => exact context_of_runStage_error host answer
  | ok outcome =>
    cases found : catalogue.find name with
    | error missing =>
      simp only [ran, runStage_of_missing host found] at answer
      cases answer
    | ok stage =>
      have did := (answer_of_runStage host catalogue found desk).1.symm.trans answer
      simp only [ran, runStage_of_ok host found desk did]
      rfl

/-- Run under a name, a stage answers as its action did, with the same answer or the same fault. If
the action returned an outcome, that one is set under the name, even if it tells of another step; if
it returned none or failed, the outcomes are as they were. A name without a stage is refused before
anything happens. -/
theorem outcomes_of_runStage (name : String) (desk : Desk σ) :
    let ran := runStage host catalogue name desk
    let outcomes := ran.state.context.outcomes
    (∀ stage, catalogue.find name = .ok stage →
      let did := stage.action desk.context (host.tick desk.world).2
      ran.answer = did.answer ∧ Event.deeds ran.events = Event.deeds did.events ∧
        (∀ outcome, did.answer = .ok (some outcome) →
          Entries.IsSet name outcome desk.context.outcomes outcomes) ∧
        (did.answer = .ok none ∨ (∃ fault, did.answer = .error fault) →
          outcomes = desk.context.outcomes)) ∧
      (name ∉ catalogue.names → ran = ⟨.error (.stageMissing name), [], desk⟩) ∧
      ran.state.context = { desk.context with outcomes := outcomes } ∧
      ∀ other, other ≠ name → outcomes.get? other = desk.context.outcomes.get? other := by
  intro ran outcomes
  have left : ran.state.context = desk.context.recorded name ran.answer.toOption.join :=
    context_of_runStage host catalogue name desk
  have held : outcomes = (desk.context.recorded name ran.answer.toOption.join).outcomes :=
    congrArg Context.outcomes left
  refine ⟨fun stage found => ?_, fun absent => ?_, ?_, fun other apart => ?_⟩
  · intro did
    obtain ⟨answer, deeds⟩ := answer_of_runStage host catalogue found desk
    refine ⟨answer, deeds, fun outcome returned => ?_, ?_⟩
    · rw [held, answer.trans returned]
      exact Entries.isSet_put name outcome _
    · rintro (returned | ⟨fault, failed⟩)
      · rw [held, answer.trans returned]
        rfl
      · rw [held, answer.trans failed]
        rfl
  · exact runStage_of_missing host (catalogue.find_eq_error_iff.mpr ⟨absent, rfl⟩) desk
  · rw [left, held]
    cases ran.answer.toOption.join <;> rfl
  · rw [held]
    exact desk.context.get?_recorded_of_ne _ apart

end Desk

end Rollout
