import Rollout.Proofs.Act
import Rollout.Sequence

/-!
A run told by its attempts.

The attempts of a run are the stages that it ran, each with what it left. They determine the run:
the phases that it enters, the events that it makes, where it ends and what it answers. So what
every stage preserves, a run preserves.
-/

set_option autoImplicit false
set_option relaxedAutoImplicit false

namespace Rollout

/-- A stage that was run for a step, with what it left. -/
structure Attempt (σ : Type) where
  step : Step
  ran : Ran (Desk σ) (Option Outcome)

namespace Attempt

variable {σ : Type}

/-- The fault that a stage raised, if it did not return. -/
def fault? (attempt : Attempt σ) : Option Fault :=
  match attempt.ran.answer with
  | .ok _ => none
  | .error fault => some fault

theorem fault?_eq_some_iff {attempt : Attempt σ} {fault : Fault} :
    attempt.fault? = some fault ↔ attempt.ran.answer = .error fault := by
  unfold fault?
  cases attempt.ran.answer <;> simp

theorem fault?_eq_none_iff {attempt : Attempt σ} :
    attempt.fault? = none ↔ ∃ outcome, attempt.ran.answer = .ok outcome := by
  unfold fault?
  cases attempt.ran.answer <;> simp

def phase (attempt : Attempt σ) : Phase := .pending attempt.step

end Attempt

section Attempts

variable {σ : Type} (host : Host σ) (catalogue : Catalogue σ)

/-- The stages that are run from a desk for a row of steps, up to the first that does not return. -/
def attempts : List Step → Desk σ → List (Attempt σ)
  | [], _ => []
  | step :: rest, desk =>
    let ran := Desk.runStage host catalogue step.name desk
    ⟨step, ran⟩ ::
      match ran.answer with
      | .ok _ => attempts rest ran.state
      | .error _ => []

/-- The fault of the first attempt that did not return. -/
def faultOf (tried : List (Attempt σ)) : Option Fault := tried.findSome? Attempt.fault?

def deskAfter (desk : Desk σ) (tried : List (Attempt σ)) : Desk σ :=
  tried.foldl (fun _ attempt => attempt.ran.state) desk

def eventsOf (tried : List (Attempt σ)) : List Event := tried.flatMap (·.ran.events)

theorem attempts_of_ok {step : Step} {rest : List Step} {desk : Desk σ} {outcome : Option Outcome}
    (answer : (Desk.runStage host catalogue step.name desk).answer = .ok outcome) :
    attempts host catalogue (step :: rest) desk =
      ⟨step, Desk.runStage host catalogue step.name desk⟩ ::
        attempts host catalogue rest (Desk.runStage host catalogue step.name desk).state := by
  simp only [attempts, answer]

theorem attempts_of_error {step : Step} {rest : List Step} {desk : Desk σ} {fault : Fault}
    (answer : (Desk.runStage host catalogue step.name desk).answer = .error fault) :
    attempts host catalogue (step :: rest) desk =
      [⟨step, Desk.runStage host catalogue step.name desk⟩] := by
  simp only [attempts, answer]

theorem steps_attempts_prefix (steps : List Step) (desk : Desk σ) :
    (attempts host catalogue steps desk).map (·.step) <+: steps := by
  induction steps generalizing desk with
  | nil => exact List.nil_prefix
  | cons step rest ih =>
    cases answer : (Desk.runStage host catalogue step.name desk).answer with
    | ok outcome =>
      rw [attempts_of_ok host catalogue answer]
      exact (List.prefix_cons_inj step).mpr (ih _)
    | error fault =>
      rw [attempts_of_error host catalogue answer]
      exact (List.prefix_cons_inj step).mpr List.nil_prefix

theorem steps_attempts_of_faultOf_eq_none {steps : List Step} {desk : Desk σ}
    (unharmed : faultOf (attempts host catalogue steps desk) = none) :
    (attempts host catalogue steps desk).map (·.step) = steps := by
  induction steps generalizing desk with
  | nil => rfl
  | cons step rest ih =>
    cases answer : (Desk.runStage host catalogue step.name desk).answer with
    | ok outcome =>
      rw [attempts_of_ok host catalogue answer] at unharmed ⊢
      have returned : (⟨step, Desk.runStage host catalogue step.name desk⟩ : Attempt σ).fault? =
          none := Attempt.fault?_eq_none_iff.mpr ⟨outcome, answer⟩
      rw [faultOf, List.findSome?_cons, returned] at unharmed
      rw [List.map_cons, ih unharmed]
    | error fault =>
      rw [attempts_of_error host catalogue answer] at unharmed
      have raised : (⟨step, Desk.runStage host catalogue step.name desk⟩ : Attempt σ).fault? =
          some fault := Attempt.fault?_eq_some_iff.mpr answer
      simp [faultOf, raised] at unharmed

theorem faultOf_attempts (steps : List Step) (desk : Desk σ) :
    faultOf (attempts host catalogue steps desk) =
      (attempts host catalogue steps desk).getLast?.bind Attempt.fault? := by
  induction steps generalizing desk with
  | nil => rfl
  | cons step rest ih =>
    cases answer : (Desk.runStage host catalogue step.name desk).answer with
    | ok outcome =>
      have returned : (⟨step, Desk.runStage host catalogue step.name desk⟩ : Attempt σ).fault? =
          none := Attempt.fault?_eq_none_iff.mpr ⟨outcome, answer⟩
      rw [attempts_of_ok host catalogue answer, faultOf, List.findSome?_cons, returned]
      refine (ih _).trans ?_
      cases attempts host catalogue rest (Desk.runStage host catalogue step.name desk).state with
      | nil => exact returned.symm
      | cons next more => rw [List.getLast?_cons_cons]
    | error fault =>
      rw [attempts_of_error host catalogue answer]
      simp [faultOf, List.findSome?_cons]
      cases (⟨step, Desk.runStage host catalogue step.name desk⟩ : Attempt σ).fault? <;> rfl

end Attempts

/-- The phases that a run enters last, by the fault that ends its attempts. -/
def Phase.closing : Option Fault → List Phase
  | none => [.done]
  | some (.step _) => [.failed]
  | some _ => []

def Phase.step? : Phase → Option Step
  | .pending step => some step
  | .done | .failed => none

theorem Phase.filterMap_step?_entered (steps : List Step) (fault? : Option Fault) :
    (steps.map Phase.pending ++ Phase.closing fault?).filterMap Phase.step? = steps := by
  have pending : (steps.map Phase.pending).filterMap Phase.step? = steps := by
    induction steps with
    | nil => rfl
    | cons step rest ih => exact congrArg (step :: ·) ih
  have closing : (Phase.closing fault?).filterMap Phase.step? = [] := by
    rcases fault? with _ | fault
    · rfl
    · cases fault <;> rfl
  rw [List.filterMap_append, pending, closing, List.append_nil]

def phasesOf {σ : Type} (tried : List (Attempt σ)) : List Phase :=
  tried.map (·.phase) ++ Phase.closing (faultOf tried)

/-- How a run ends: the events that it makes last, and its answer. -/
structure Close where
  events : List Event
  answer : Except Fault Report

/-- How a run ends in a context, by the fault that ends its attempts. A step fault is reported, any
other fault is passed on. -/
def Close.of (context : Context) : Option Fault → Close
  | none =>
    ⟨[.log (.of Sequencer.logger (.sequenceFinished context.runId context.programId))],
      .ok ⟨.done, 0, context.programId, none⟩⟩
  | some (.step fault) =>
    ⟨[.log (.of Sequencer.logger (.sequenceHalted context.runId fault.step fault.exitCode))],
      .ok ⟨.failed, fault.exitCode, context.programId, some fault⟩⟩
  | some fault => ⟨[], .error fault⟩

namespace Sequencer

def enterAll (sequencer : Sequencer) (phases : List Phase) : Sequencer :=
  phases.foldl enter sequencer

theorem history_enterAll (sequencer : Sequencer) (phases : List Phase) :
    (sequencer.enterAll phases).history = sequencer.history ++ phases := by
  induction phases generalizing sequencer with
  | nil => exact (List.append_nil _).symm
  | cons phase rest ih =>
    refine (ih (sequencer.enter phase)).trans ?_
    simp [enter]

theorem phase_enterAll (sequencer : Sequencer) (phases : List Phase) :
    (sequencer.enterAll phases).phase = phases.getLast?.getD sequencer.phase := by
  induction phases generalizing sequencer with
  | nil => rfl
  | cons phase rest ih =>
    refine (ih (sequencer.enter phase)).trans ?_
    cases rest with
    | nil => rfl
    | cons next more => simp [List.getLast?_cons]

end Sequencer

namespace Bench

variable {σ : Type} (host : Host σ) (catalogue : Catalogue σ)

/-- What a run from a bench leaves, told by its attempts. -/
def told (bench : Bench σ) (tried : List (Attempt σ)) : Ran (Bench σ) Report :=
  let desk := deskAfter bench.desk tried
  let close := Close.of desk.context (faultOf tried)
  ⟨close.answer, eventsOf tried ++ close.events,
    ⟨bench.sequencer.enterAll (phasesOf tried), desk⟩⟩

theorem atDesk_apply {α : Type} (act : Act (Desk σ) α) (bench : Bench σ) :
    atDesk act bench =
      ⟨(act bench.desk).answer, (act bench.desk).events,
        ⟨bench.sequencer, (act bench.desk).state⟩⟩ := rfl

theorem enter_apply (phase : Phase) (bench : Bench σ) :
    enter phase bench = ⟨.ok (), [], ⟨bench.sequencer.enter phase, bench.desk⟩⟩ := rfl

def closed (bench : Bench σ) (fault? : Option Fault) : Ran (Bench σ) Report :=
  let close := Close.of bench.desk.context fault?
  ⟨close.answer, close.events, ⟨bench.sequencer.enterAll (Phase.closing fault?), bench.desk⟩⟩

theorem advance_cons (step : Step) (rest : List (Step × String)) (bench : Bench σ) :
    advance host catalogue ((step, step.name) :: rest) bench =
      let ran := Desk.runStage host catalogue step.name bench.desk
      let after : Bench σ := ⟨bench.sequencer.enter (.pending step), ran.state⟩
      let last := match ran.answer with
        | .ok _ => advance host catalogue rest after
        | .error fault => closed after (some fault)
      ⟨last.answer, ran.events ++ last.events, last.state⟩ := by
  simp only [advance, Act.bind_apply, enter_apply, Act.attempt_apply, atDesk_apply, List.nil_append]
  cases (Desk.runStage host catalogue step.name bench.desk).answer with
  | ok outcome => rfl
  | error fault => cases fault <;> rfl

theorem advance_eq_told (steps : List Step) (bench : Bench σ) :
    advance host catalogue (steps.map fun step => (step, step.name)) bench =
      told bench (attempts host catalogue steps bench.desk) := by
  induction steps generalizing bench with
  | nil => rfl
  | cons step rest ih =>
    rw [List.map_cons, advance_cons]
    cases answer : (Desk.runStage host catalogue step.name bench.desk).answer with
    | ok outcome =>
      rw [attempts_of_ok host catalogue answer]
      simp only [ih, told, eventsOf, phasesOf, faultOf, List.flatMap_cons, List.findSome?_cons,
        Attempt.fault?, answer, List.append_assoc]
      rfl
    | error fault =>
      rw [attempts_of_error host catalogue answer]
      simp only [told, closed, eventsOf, phasesOf, faultOf, List.flatMap_cons, List.flatMap_nil,
        List.append_nil, List.findSome?_cons, Attempt.fault?, answer]
      rfl

theorem run_of_spent {bench : Bench σ} (spent : bench.sequencer.history ≠ []) :
    run host catalogue bench = ⟨.error .spent, [], bench⟩ := by
  have used : bench.sequencer.history.isEmpty = false := by simpa using spent
  simp only [run, Act.bind_apply, Act.get_apply, used]
  rfl

theorem run_of_missing {bench : Bench σ} {name : String} {names : List String}
    (fresh : bench.sequencer.history = [])
    (missing : catalogue.missing (Step.all.map Step.name) = name :: names) :
    run host catalogue bench = ⟨.error (.stagesUnknown (name :: names)), [], bench⟩ := by
  have refused : catalogue.resolve (Step.all.map Step.name) =
      .error (.stagesUnknown (name :: names)) := by simp only [Catalogue.resolve, missing]
  simp only [run, Act.bind_apply, Act.get_apply, fresh, List.isEmpty_nil, if_true, refused,
    Act.ofExcept_apply]
  rfl

theorem run_eq_told {bench : Bench σ} (fresh : bench.sequencer.history = [])
    (complete : catalogue.missing (Step.all.map Step.name) = []) :
    run host catalogue bench = told bench (attempts host catalogue Step.all bench.desk) := by
  have resolved : catalogue.resolve (Step.all.map Step.name) = .ok (Step.all.map Step.name) := by
    simp only [Catalogue.resolve, complete]
    rfl
  rw [← advance_eq_told]
  simp only [run, Act.bind_apply, Act.get_apply, fresh, List.isEmpty_nil, if_true, resolved,
    Act.ofExcept_apply, List.nil_append]
  rfl

private theorem holds_deskAfter {holds : Desk σ → Prop}
    (stages : ∀ name, Act.Preserves holds (Desk.runStage host catalogue name))
    (steps : List Step) {desk : Desk σ} (held : holds desk) :
    holds (deskAfter desk (attempts host catalogue steps desk)) := by
  induction steps generalizing desk with
  | nil => exact held
  | cons step rest ih =>
    have once := stages step.name desk held
    cases answer : (Desk.runStage host catalogue step.name desk).answer with
    | ok outcome =>
      rw [attempts_of_ok host catalogue answer]
      exact ih once
    | error fault =>
      rw [attempts_of_error host catalogue answer]
      exact once

theorem preserves_run {holds : Desk σ → Prop}
    (stages : ∀ name, Act.Preserves holds (Desk.runStage host catalogue name)) :
    Act.Preserves (fun bench : Bench σ => holds bench.desk) (run host catalogue) := by
  intro bench held
  by_cases fresh : bench.sequencer.history = []
  · cases missing : catalogue.missing (Step.all.map Step.name) with
    | nil =>
      rw [run_eq_told host catalogue fresh missing]
      exact holds_deskAfter host catalogue stages Step.all held
    | cons name names =>
      rw [run_of_missing host catalogue fresh missing]
      exact held
  · rw [run_of_spent host catalogue fresh]
    exact held

end Bench

end Rollout
