import Rollout.Stage

/-!
The sequence of a rollout: the rewards deploy, the registry deploy, then the tests.

A sequencer runs once. It enters the phase of each stage before the stage runs, and ends in the
phase done after the last stage, or in the phase failed at the first step fault; any other fault
leaves it in the phase that it had entered.
-/

set_option autoImplicit false
set_option relaxedAutoImplicit false

namespace Rollout

inductive Phase
  | pending (step : Step)
  | done
  | failed
  deriving DecidableEq, Repr

def Phase.text : Phase → String
  | .pending .rewards => "pending-rewards-deploy"
  | .pending .registry => "pending-registry-deploy"
  | .pending .tests => "pending-tests"
  | .done => "done"
  | .failed => "failed"

/-- A sequencer: the phase that it is in and the phases that it has entered. -/
structure Sequencer where
  phase : Phase
  history : List Phase
  deriving DecidableEq, Repr

namespace Sequencer

def fresh : Sequencer := ⟨.pending .rewards, []⟩

def enter (sequencer : Sequencer) (phase : Phase) : Sequencer :=
  ⟨phase, sequencer.history ++ [phase]⟩

def logger : String := "sequencer.sequence"

end Sequencer

structure Report where
  phase : Phase
  exitCode : Int
  programId : Option String
  fault : Option StepFault
  deriving DecidableEq, Repr

namespace Report

def succeeded (report : Report) : Bool := report.phase = .done

def failedStep (report : Report) : Option String := report.fault.map (·.step)

end Report

structure Bench (σ : Type) where
  sequencer : Sequencer
  desk : Desk σ

namespace Bench

variable {σ α : Type}

def atDesk (act : Act (Desk σ) α) : Act (Bench σ) α :=
  Act.focus (·.desk) (fun desk bench => { bench with desk := desk }) act

def enter (phase : Phase) : Act (Bench σ) Unit :=
  Act.modify fun bench => { bench with sequencer := bench.sequencer.enter phase }

def halt (fault : StepFault) : Act (Bench σ) Report := do
  enter .failed
  let context := (← Act.get).desk.context
  Act.log Sequencer.logger (.sequenceHalted context.runId fault.step fault.exitCode)
  pure ⟨.failed, fault.exitCode, context.programId, some fault⟩

def finish : Act (Bench σ) Report := do
  enter .done
  let context := (← Act.get).desk.context
  Act.log Sequencer.logger (.sequenceFinished context.runId context.programId)
  pure ⟨.done, 0, context.programId, none⟩

def advance (host : Host σ) (catalogue : Catalogue σ) :
    List (Step × String) → Act (Bench σ) Report
  | [] => finish
  | (step, name) :: rest => do
    enter (.pending step)
    match ← Act.attempt (atDesk (Desk.runStage host catalogue name)) with
    | .ok _ => advance host catalogue rest
    | .error (.step fault) => halt fault
    | .error fault => Act.fail fault

/-- Run the sequence. A sequencer that has entered a phase does not run again; the stages are looked
up before any of them runs. -/
def run (host : Host σ) (catalogue : Catalogue σ) : Act (Bench σ) Report := do
  if (← Act.get).sequencer.history.isEmpty then
    let names ← Act.ofExcept (catalogue.resolve (Step.all.map Step.name))
    advance host catalogue (Step.all.zip names)
  else Act.fail .spent

end Bench

namespace Desk

variable {σ : Type}

def runSequence (host : Host σ) : Act (Desk σ) Report := fun desk =>
  let ran := Bench.run host (.usual host) ⟨.fresh, desk⟩
  ⟨ran.answer, ran.events, ran.state.desk⟩

end Desk

/-- Run the sequence in a context, or in the usual one where none is given. The answer is the exit
code of the run. -/
def Host.rollOut {σ : Type} (host : Host σ) (usual : Except Fault Context)
    (given : Option Context) : Act σ Int := do
  let context ← Act.ofExcept (given.elim usual .ok)
  Act.focus (fun world => ⟨context, world⟩) (fun desk _ => desk.world) do
    return (← Desk.runSequence host).exitCode

end Rollout
