import Rollout.Command
import Rollout.Disk.Fault
import Rollout.Log.SetupFault
import Rollout.Text.Utf8
import Rollout.Text.Words
import Rollout.Token
import Rollout.Value.Fault

/-!
Everything that can go wrong, by cause, with the text of each.

A step fault stops a rollout and carries an exit code; a plan fault tells that the configuration is
wrong. All other faults leave the program as they are. An interruption is no failure: it ends what is
under way, but nothing that is done in case of a failure is done for it.
-/

set_option autoImplicit false
set_option relaxedAutoImplicit false

namespace Rollout

inductive CommandKind
  | any
  | deploy
  | tests
  deriving DecidableEq, Repr

/-- Why a step cannot go on although no command failed. -/
inductive StepFault.Reason
  | noProgramId
  | blankProgramId
  | token (fault : Token.Fault)
  | told (message : String)
  deriving DecidableEq, Repr

def StepFault.Reason.message : StepFault.Reason → String
  | .noProgramId => "no rewards program id available"
  | .blankProgramId => "rewards program id is empty"
  | .token fault => fault.message
  | .told message => message

inductive StepFault
  | plain (step : String) (reason : StepFault.Reason) (exitCode : Int)
  | extraction (step : String) (reason : StepFault.Reason) (exitCode : Int)
  | command (kind : CommandKind) (step : String) (result : Result)
  deriving DecidableEq, Repr

namespace StepFault

def step : StepFault → String
  | .plain step _ _ | .extraction step _ _ | .command _ step _ => step

def exitCode : StepFault → Int
  | .plain _ _ code | .extraction _ _ code => code
  | .command _ _ result => result.exitCode

def reason : StepFault → String
  | .plain _ reason _ | .extraction _ reason _ => reason.message
  | .command _ _ result => result.reason

def message (f : StepFault) : String := s!"Step '{f.step}' failed: {f.reason}"

end StepFault

inductive Plan.Fault
  | unreadableTimeout (label shown : String)
  | timeoutNotPositive (label shown : String)
  | notFound (path : Path)
  | malformed (cause : String)
  | notMapping
  | stepsNotMapping
  | unknownSteps (names : List String)
  | stepNotMapping (step : String)
  | commandShape (step : String)
  | commandEmpty (step : String)
  | told (message : String)
  deriving DecidableEq, Repr

def Plan.Fault.message : Plan.Fault → String
  | .unreadableTimeout label shown => s!"Invalid {label} {shown}"
  | .timeoutNotPositive label shown =>
    s!"{label} must be a positive number of seconds, got {shown}"
  | .notFound path => s!"Deployment plan not found at {path}"
  | .malformed cause => s!"Failed to parse deployment plan: {cause}"
  | .notMapping => "Deployment plan must be a mapping"
  | .stepsNotMapping => "'steps' must be a mapping of step name to settings"
  | .unknownSteps names => "Unknown steps in deployment plan: " ++ ", ".intercalate names
  | .stepNotMapping step => s!"Step '{step}' must be a mapping"
  | .commandShape step => s!"'command' for step '{step}' must be a string or a list"
  | .commandEmpty step => s!"'command' for step '{step}' is empty"
  | .told message => message

/-- Kinds of faults that stages of one's own may raise. -/
inductive ToldKind
  | value
  | state
  | key
  deriving DecidableEq, Repr

/-- What ends a program from within although nothing failed. -/
inductive Interruption
  | exit (status : Int)
  | keyboard
  deriving DecidableEq, Repr

def Interruption.message : Interruption → String
  | .exit status => toString status
  | .keyboard => ""

inductive Fault
  | step (fault : StepFault)
  | plan (fault : Plan.Fault)
  | words (fault : Text.Words.Fault)
  | value (fault : Value.Fault)
  | disk (fault : Disk.Fault)
  | undecodable (fault : Text.Utf8.Fault)
  | unresolved (fault : Disk.Unresolved)
  | stageTaken (name : String)
  | stageMissing (name : String)
  | stagesUnknown (names : List String)
  | spent
  | noArguments
  | nullCharacter
  | variableName
  | unboundedWait
  | waitTooLong
  | waitUncountable
  | unknownLevel (name : String)
  | setup (fault : Log.SetupFault)
  | unknownAttribute (name : String)
  | noWord
  | noOutcome (name : String)
  | told (kind : ToldKind) (message : String)
  | interrupted (interruption : Interruption)
  deriving DecidableEq, Repr

def Fault.isFailure : Fault → Bool
  | .interrupted _ => false
  | _ => true

def Fault.message : Fault → String
  | .step fault => fault.message
  | .plan fault => fault.message
  | .words fault => fault.message
  | .value fault => fault.message
  | .disk fault => fault.message
  | .undecodable fault => fault.message
  | .unresolved fault => fault.message
  | .stageTaken name => s!"Stage '{name}' is already registered"
  | .stageMissing name => s!"Stage '{name}' is not registered"
  | .stagesUnknown names => "Unknown stages requested: " ++ ", ".intercalate names
  | .spent => "A DeploymentSequencer instance runs only once"
  | .noArguments => "list index out of range"
  | .nullCharacter => "embedded null byte"
  | .variableName => "illegal environment variable name"
  | .unboundedWait => "cannot convert float infinity to integer"
  | .waitTooLong => "timeout is too large"
  | .waitUncountable => "timestamp too large to convert to C _PyTime_t"
  | .unknownLevel name => s!"Unknown level: {Text.quoted name}"
  | .setup fault => fault.message
  | .unknownAttribute name => name
  | .noWord => "'list' object has no attribute 'strip'"
  | .noOutcome name => name
  | .told _ message => message
  | .interrupted interruption => interruption.message

end Rollout
