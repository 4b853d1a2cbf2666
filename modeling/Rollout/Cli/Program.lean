import Rollout.Cli.Usage
import Rollout.Log.Start
import Rollout.Sequence

/-!
The program as it is run from a command line.

It seeds the environment, sets the loggers up, reads its arguments and does the command. A plan
fault is told and ends with the status of a misuse; a step fault ends with the exit code of the
step. Any other fault leaves the program as it is.
-/

set_option autoImplicit false
set_option relaxedAutoImplicit false

namespace Rollout.Cli

structure Situation where
  disk : Disk
  environment : Environment
  now : Moment
  input : List UInt8

def misuseStatus : Int := 2

def logger : String := "sequencer.cli"

namespace Situation

def context (situation : Situation) : Except Fault Context :=
  Context.load situation.disk situation.environment situation.now

def textOf (bytes : List UInt8) : Except Text.Utf8.Fault (List Char) :=
  (Text.Utf8.decode bytes).map Text.unifyLineEnds

/-- The text of standard input. Its line ends are taken to be made line feeds, as those of files are. It
is an assumption about how standard input was opened: opened by itself, it may keep carriage returns. -/
def inputText (situation : Situation) : Except Fault String :=
  (textOf situation.input).mapError .undecodable |>.map String.ofList

def fileText (situation : Situation) (name : String) : Except Fault String := do
  if name.contains '\x00' then throw .nullCharacter
  let bytes ← (situation.disk.read (.ofString name)).mapError .disk
  return String.ofList (← (textOf bytes).mapError .undecodable)

end Situation

section Commands

variable {σ α : Type}

/-- Act at a desk with a context; the context after it is a part of the answer. -/
def atDesk (context : Context) (act : Act (Desk σ) α) : Act σ (α × Context) := fun world =>
  let ran := act ⟨context, world⟩
  ⟨ran.answer.map (·, ran.state.context), ran.events, ran.state.world⟩

/-- The exit code of an act: zero, or that of a step fault. -/
def exitCode (act : Act σ Int) : Act σ Int := do
  match ← Act.attempt act with
  | .error (.step fault) => return fault.exitCode
  | .error fault => Act.fail fault
  | .ok code => return code

def runAll (host : Host σ) (situation : Situation) : Act σ Int := do
  let context ← Act.ofExcept situation.context
  Act.log logger (.sequenceStarted context.plan.steps.names context.workspace)
  let (report, _) ← atDesk context (Desk.runSequence host)
  match report.fault with
  | none => pure ()
  | some fault => Act.complain s!"Error: {fault.message}"
  return report.exitCode

def listStages (host : Host σ) : Act σ Int := do
  Act.printLine "Registered stages:"
  for line in (Catalogue.usual host).describe do
    Act.printLine s!"- {line}"
  return 0

def openProgramId : String := "<program-id>"

def stepLine (context : Context) (name : String) (command : StepCommand) : String :=
  let argv :=
    if name = Step.tests.name then context.plan.forward openProgramId else command.argv
  s!"{name}: " ++ " ".intercalate argv ++ s!"  (cwd={command.directory context.workspace})"

def planLines (context : Context) : List String :=
  context.plan.steps.map (fun (name, command) => stepLine context name command) ++
    (context.timeout.map fun timeout => s!"timeout: {timeout.toText}s").toList

def showPlan (situation : Situation) : Act σ Int := do
  let context ← Act.ofExcept situation.context
  for line in planLines context do
    Act.printLine line
  return 0

def extractFrom (text : String) : Act σ Int :=
  match Stage.programIdIn Step.rewards.name text with
  | .ok programId => do
    Act.printLine programId
    return 0
  | .error fault => do
    Act.complain s!"Error: {fault.message}"
    return fault.exitCode

def extract (situation : Situation) : Option String → Act σ Int
  | none => do extractFrom (← Act.ofExcept situation.inputText)
  | some name => do
    match situation.fileText name with
    | .ok text => extractFrom text
    | .error .nullCharacter => Act.fail .nullCharacter
    | .error fault =>
      Act.complain s!"Error: cannot read {name}: {fault.message}"
      return misuseStatus

/-- Run the stage of one step; the answer is its exit code. -/
def runStep (host : Host σ) (catalogue : Catalogue σ) (context : Context) (step : Step) :
    Act σ (Int × Context) :=
  atDesk context (exitCode do
    let _ ← Desk.runStage host catalogue step.name
    return 0)

def deployRewards (host : Host σ) (situation : Situation) : Act σ Int := do
  let context ← Act.ofExcept situation.context
  let (code, context) ← runStep host (.usual host) context .rewards
  if code = 0 then
    match context.outcomes.get? Step.rewards.name with
    | none => Act.fail (.noOutcome Step.rewards.name)
    | some outcome => Act.printLine (outcome.programId.getD "None")
  return code

def deployRegistry (host : Host σ) (situation : Situation) : Act σ Int := do
  let context ← Act.ofExcept situation.context
  let (code, _) ← runStep host (.usual host) context .registry
  return code

/-- The catalogue of the usual stages, in which the tests refuse the program id that they are
given. -/
def refusing (host : Host σ) : Catalogue σ :=
  (Catalogue.usual host).put Step.tests.name
    { Stage.ofStep host .tests with action := fun _ => Act.fail .noWord }

/-- Run the tests with a program id, which they refuse where no word was left for it. -/
def runTests (host : Host σ) (situation : Situation) (programId : Option String) :
    Act σ Int := do
  let context ← Act.ofExcept situation.context
  let outcome : Outcome := ⟨Step.rewards.name, none, programId⟩
  let catalogue := if programId.isSome then Catalogue.usual host else refusing host
  let (code, _) ← runStep host catalogue (context.record Step.rewards.name outcome) .tests
  return code

def perform (host : Host σ) (situation : Situation) : Command → Act σ Int
  | .run => runAll host situation
  | .stages => listStages host
  | .plan => showPlan situation
  | .extract file => extract situation file
  | .deployRewards => deployRewards host situation
  | .deployRegistry => deployRegistry host situation
  | .runTests programId => runTests host situation programId

/-- Tell why there is no command, for a width; help is no misuse. -/
def refuse (width : Int) (refusal : Refusal) : Act σ Int :=
  match refusal.stop with
  | .help => do
    Act.emit (.out (help width refusal.place))
    return 0
  | .misuse misuse => do
    Act.emit (.err (complaint width refusal.place misuse))
    return misuseStatus

def tellPlanFault (act : Act σ Int) : Act σ Int := do
  match ← Act.attempt act with
  | .error (.plan fault) =>
    Act.complain s!"Error: {fault.message}"
    return misuseStatus
  | .error fault => Act.fail fault
  | .ok code => return code

def obey (host : Host σ) (situation : Situation) (arguments : List String) : Act σ Int :=
  match read arguments with
  | .error refusal => refuse (lineWidth (columns situation.environment)) refusal
  | .ok command => tellPlanFault (perform host situation command)

end Commands

/-- The loggers and the disk of the program, and the world around it. -/
structure Surroundings (σ : Type) where
  ground : Log.Ground
  world : σ

namespace Surroundings

variable {σ α : Type}

def onGround (act : Act Log.Ground α) : Act (Surroundings σ) α :=
  Act.focus (·.ground) (fun ground around => { around with ground := ground }) act

def inWorld (act : Act σ α) : Act (Surroundings σ) α :=
  Act.focus (·.world) (fun world around => { around with world := world }) act

end Surroundings

/-- The whole program. The world takes over the environment once that is seeded, and the disk once
the loggers are set up. -/
def program {σ : Type} (host : Host σ) (adopt : Environment → Disk → σ → σ)
    (situation : Situation) (arguments : List String) : Act (Surroundings σ) Int := do
  match Environment.load situation.disk situation.environment with
  | (_, some fault) => Act.fail fault
  | (environment, none) =>
    Surroundings.onGround (Log.start environment)
    let disk := (← Act.get).ground.disk
    Surroundings.inWorld do
      Act.modify (adopt environment disk)
      obey host { situation with environment := environment, disk := disk } arguments

/-! ### What is shown -/

/-- What a run shows: how it ends, what came about, and the texts of standard output and of standard
error. -/
structure Transcript where
  answer : Except Fault Int
  events : List Event
  out : String
  err : String

namespace Transcript

open Log (Passage Sink Trail Wording)

def write (sink : Sink) (text : String) : Passage Unit :=
  modify fun trail => { trail with pieces := trail.pieces ++ [(sink, text)] }

def ofEvent (wording : Wording) : Event → Passage Unit
  | .call _ => pure ()
  | .log record => Passage.emit wording record
  | .out text => write .out text
  | .err text => write .err text

/-- Show events up to the first that cannot be shown. The answer holds those that are, the fault of
the first that is not, and what is written. -/
def showAll (wording : Wording) (trail : Trail) : List Event → List Event × Option Fault × Trail
  | [] => ([], none, trail)
  | event :: rest =>
    match (ofEvent wording event).run.run trail with
    | (.error fault, trail) => ([], some fault, trail)
    | (.ok (), trail) =>
      let (shown, fault, trail) := showAll wording trail rest
      (event :: shown, fault, trail)

/-- The transcript of a run. A record that cannot be shown ends the run. -/
def ofRan {σ : Type} (wording : Wording) (ran : Ran (Surroundings σ) Int) : Transcript :=
  let (events, fault, trail) := showAll wording ⟨ran.state.ground.console, []⟩ ran.events
  let textOf (sink : Sink) : String :=
    String.join ((trail.pieces.filter (·.1 = sink)).map (·.2))
  ⟨match fault with
    | some fault => .error fault
    | none => ran.answer, events, textOf .out, textOf .err⟩

end Transcript

end Rollout.Cli
