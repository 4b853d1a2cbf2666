import Rollout.Catalogue
import Rollout.Number.Shortest

/-!
The stages of a rollout and the running of one stage.

Each stage runs the command of its step in the step's directory, under the context's timeout. The
rewards stage keeps the command's output and takes the program id from it; the tests stage passes
that id on, as a last argument and as a variable.
-/

set_option autoImplicit false
set_option relaxedAutoImplicit false

namespace Rollout

namespace Stage

variable {σ : Type}

def deployLogger : String := "sequencer.deploy"

def testsLogger : String := "sequencer.verify"

def callOf (context : Context) (command : StepCommand) (capture : Bool) : Call where
  argv := command.argv
  directory := command.directory context.workspace
  overlay := none
  capture := capture
  timeout := context.timeout

def rewardsCall (context : Context) : Call := callOf context context.plan.rewards true

def registryCall (context : Context) : Call := callOf context context.plan.registry false

def testsCall (context : Context) (programId : String) : Call :=
  { callOf context context.plan.tests false with
    argv := context.plan.forward programId
    overlay := some [(context.plan.parameter, programId)] }

/-- The text of a command's output, without the blanks at its end. -/
def trimmedOutput (output : String) : String := String.ofList (Text.trimEnd output.toList)

def showOutput (step : String) (output : Option String) : Act σ Unit :=
  match output with
  | some text =>
    if text.isEmpty then pure ()
    else Act.log deployLogger (.commandOutput step (trimmedOutput text))
  | none => pure ()

/-- The program id that the output of a step's command names; no output counts as an empty one. -/
def programIdIn (step : String) (output : Option String) : Except StepFault String :=
  match Token.extract (output.getD "") with
  | .error fault => .error (.extraction step (.token fault) 1)
  | .ok programId => .ok programId

/-- Deploy the rewards program and take its id from the command's output. -/
def deployRewards (host : Host σ) (context : Context) : Act σ (Option Outcome) := do
  let step := context.plan.rewards.name
  let result ← host.perform (rewardsCall context)
  if !result.ok then
    showOutput step result.output
    Act.fail (.step (.command .deploy step result))
  else
    Act.log deployLogger (.rewardsOutput result.output)
    match programIdIn step result.output with
    | .error fault => Act.fail (.step fault)
    | .ok programId =>
      Act.log deployLogger (.rewardsDeployed programId)
      pure (some ⟨step, some result, some programId⟩)

def deployRegistry (host : Host σ) (context : Context) : Act σ (Option Outcome) := do
  let step := context.plan.registry.name
  let result ← host.perform (registryCall context)
  if !result.ok then Act.fail (.step (.command .deploy step result))
  else pure (some ⟨step, some result, none⟩)

/-- The program id that the rewards stage handed on, if it can be used. -/
def readyProgramId (context : Context) : Except Fault String :=
  match context.programId with
  | none => .error (.step (.plain Step.tests.name .noProgramId 1))
  | some programId =>
    if Text.isBlankText programId then .error (.step (.plain Step.tests.name .blankProgramId 1))
    else .ok programId

def runTests (host : Host σ) (context : Context) : Act σ (Option Outcome) := do
  let step := context.plan.tests.name
  let programId ← Act.ofExcept (readyProgramId context)
  Act.log testsLogger (.testsRunning context.plan.parameter programId)
  let result ← host.perform (testsCall context programId)
  if !result.ok then Act.fail (.step (.command .tests step result))
  else pure (some ⟨step, some result, some programId⟩)

def ofStep (host : Host σ) : Step → Stage σ
  | .rewards => ⟨Step.rewards.description, deployLogger, deployRewards host⟩
  | .registry => ⟨Step.registry.description, deployLogger, deployRegistry host⟩
  | .tests => ⟨"Run the registry tests with the rewards program id.", testsLogger, runTests host⟩

end Stage

namespace Catalogue

variable {σ : Type}

def usual (host : Host σ) : Catalogue σ :=
  Step.all.map fun step => (step.name, Stage.ofStep host step)

end Catalogue

structure Desk (σ : Type) where
  context : Context
  world : σ

namespace Desk

variable {σ α : Type}

def inWorld (act : Act σ α) : Act (Desk σ) α :=
  Act.focus (·.world) (fun world desk => { desk with world := world }) act

def record (name : String) : Option Outcome → Act (Desk σ) Unit
  | none => pure ()
  | some outcome => Act.modify fun desk => { desk with context := desk.context.record name outcome }

/-- Log how a stage failed. A step fault is told in its own words, another fault is shown. Of an
interruption nothing is logged. -/
def logFailure (logger name : String) : Fault → Act (Desk σ) Unit
  | .step fault => Act.log logger (.stageFailed name fault)
  | .interrupted _ => pure ()
  | fault => Act.log logger (.stageBroke name fault)

def runStage (host : Host σ) (catalogue : Catalogue σ) (name : String) :
    Act (Desk σ) (Option Outcome) := do
  let stage ← Act.ofExcept (catalogue.find name)
  let desk ← Act.get
  let context := desk.context
  Act.log stage.logger (.stageStarted name context.runId (context.timestamp.text "T"))
  let start ← inWorld host.clock
  match ← Act.attempt (inWorld (stage.action context)) with
  | .error fault =>
    logFailure stage.logger name fault
    Act.fail fault
  | .ok outcome =>
    record name outcome
    let finish ← inWorld host.clock
    Act.log stage.logger (.stageCompleted name (finish.sub start))
    pure outcome

end Desk

end Rollout
