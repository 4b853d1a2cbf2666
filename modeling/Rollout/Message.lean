import Rollout.Datum
import Rollout.Number.Shortest

/-!
What the program tells in its log.

A message is written as a template whose marks stand for its arguments, one after the other. Every
message has its weight and the place in the program that it comes from.
-/

set_option autoImplicit false
set_option relaxedAutoImplicit false

namespace Rollout

open Number (Binary64)

inductive Level
  | debug
  | info
  | warning
  | error
  | critical
  deriving DecidableEq, Repr

/-- The place in the program that a message comes from. -/
structure Origin where
  file : String
  function : String
  line : Nat
  deriving DecidableEq, Repr

inductive Message
  | sequenceStarted (steps : List String) (workspace : Path)
  | sequenceHalted (runId step : String) (exitCode : Int)
  | sequenceFinished (runId : String) (programId : Option String)
  | stageStarted (stage runId timestamp : String)
  | stageCompleted (stage : String) (seconds : Binary64)
  | stageFailed (stage : String) (fault : StepFault)
  | stageBroke (stage : String) (fault : Fault)
  | commandOutput (step output : String)
  | commandStarting (words : String) (directory : Path)
  | commandNotStarted (name : String) (directory : Path) (fault : Disk.Fault)
  | commandExpired (words : String) (timeout : Option Binary64)
  | rewardsOutput (output : Option String)
  | rewardsDeployed (programId : String)
  | testsRunning (parameter programId : String)
  deriving DecidableEq, Repr

namespace Message

def level : Message → Level
  | .commandStarting _ _ | .rewardsOutput _ => .debug
  | .sequenceHalted _ _ _ | .stageFailed _ _ | .stageBroke _ _ | .commandOutput _ _
  | .commandNotStarted _ _ _ | .commandExpired _ _ => .error
  | _ => .info

def template : Message → String
  | .sequenceStarted _ _ => "Running %s in %s"
  | .sequenceHalted _ _ _ => "Sequence %s halted at step '%s' (exit code %d)"
  | .sequenceFinished _ _ => "Sequence %s finished; tests ran with program id %s"
  | .stageStarted _ _ _ => "Starting stage '%s' (run_id=%s, timestamp=%s)"
  | .stageCompleted _ _ => "Completed stage '%s' in %.2fs"
  | .stageFailed _ _ => "Stage '%s' failed: %s"
  | .stageBroke _ _ => "Stage '%s' failed"
  | .commandOutput _ _ => "Output of '%s':\n%s"
  | .commandStarting _ _ => "Executing %s in %s"
  | .commandNotStarted _ _ _ => "Could not start %s in %s: %s"
  | .commandExpired _ _ => "Command %s timed out after %ss"
  | .rewardsOutput _ => "Rewards deploy output: %s"
  | .rewardsDeployed _ => "Rewards program deployed with id %s"
  | .testsRunning _ _ => "Running tests with %s=%s"

def datumOf? (text : Option String) : Datum := (text.map Datum.text).getD (.value .null)

def secondsOf? (seconds : Option Binary64) : Datum :=
  .value ((seconds.map Value.float).getD .null)

/-- The arguments of a message, in the order of the marks of its template. -/
def arguments : Message → List Datum
  | .sequenceStarted steps workspace => [.text (", ".intercalate steps), .path workspace]
  | .sequenceHalted runId step code => [.text runId, .text step, .whole code]
  | .sequenceFinished runId programId => [.text runId, datumOf? programId]
  | .stageStarted stage runId timestamp => [.text stage, .text runId, .text timestamp]
  | .stageCompleted stage seconds => [.text stage, .value (.float seconds)]
  | .stageFailed stage fault => [.text stage, .fault (.step fault)]
  | .stageBroke stage _ => [.text stage]
  | .commandOutput step output => [.text step, .text output]
  | .commandStarting words directory => [.text words, .path directory]
  | .commandNotStarted name directory fault => [.text name, .path directory, .fault (.disk fault)]
  | .commandExpired words timeout => [.text words, secondsOf? timeout]
  | .rewardsOutput output => [datumOf? output]
  | .rewardsDeployed programId => [.text programId]
  | .testsRunning parameter programId => [.text parameter, .text programId]

/-- Put data at the marks of a template: as they are shown, as whole numbers, or with two places. -/
def fill : List Char → List Datum → List Char
  | '%' :: 's' :: rest, d :: more => (d.shown Fault.message).toList ++ fill rest more
  | '%' :: 'd' :: rest, d :: more => (d.shown Fault.message).toList ++ fill rest more
  | '%' :: '.' :: '2' :: 'f' :: rest, .value (.float x) :: more =>
    x.toHundredths.toList ++ fill rest more
  | c :: rest, arguments => c :: fill rest arguments
  | [], _ => []

def text (m : Message) : String := String.ofList (fill m.template.toList m.arguments)

def cause? : Message → Option Fault
  | .stageBroke _ fault => some fault
  | _ => none

private def commandOrigin (line : Nat) : Origin := ⟨"process.py", "run_command", line⟩

private def stageOrigin (line : Nat) : Origin := ⟨"runner.py", "run_stage", line⟩

private def sequenceOrigin (line : Nat) : Origin := ⟨"sequence.py", "run", line⟩

private def rewardsOrigin (line : Nat) : Origin := ⟨"__init__.py", "deploy_rewards", line⟩

def origin : Message → Origin
  | .sequenceStarted _ _ => ⟨"cli.py", "command_run", 95⟩
  | .sequenceHalted _ _ _ => sequenceOrigin 75
  | .sequenceFinished _ _ => sequenceOrigin 90
  | .stageStarted _ _ _ => stageOrigin 35
  | .stageFailed _ _ => stageOrigin 45
  | .stageBroke _ _ => stageOrigin 48
  | .stageCompleted _ _ => stageOrigin 52
  | .commandOutput _ _ => rewardsOrigin 29
  | .rewardsOutput _ => rewardsOrigin 31
  | .rewardsDeployed _ => rewardsOrigin 33
  | .commandStarting _ _ => commandOrigin 67
  | .commandNotStarted _ _ _ => commandOrigin 80
  | .commandExpired _ _ => commandOrigin 95
  | .testsRunning _ _ => ⟨"__init__.py", "run_tests", 31⟩

example : text (.sequenceHalted "r" "s" 3) = "Sequence r halted at step 's' (exit code 3)" := by
  decide +kernel

end Message

end Rollout
