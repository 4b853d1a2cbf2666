import Rollout.Fault

/-!
Deployment plans: the three commands of a rollout.

The rewards program is deployed first, the registry program second, and the tests run last, with the
id of the rewards program passed as a named parameter.
-/

set_option autoImplicit false
set_option relaxedAutoImplicit false

namespace Rollout

open Number (Binary64)

inductive Step
  | rewards
  | registry
  | tests
  deriving DecidableEq, Repr

namespace Step

def name : Step → String
  | .rewards => "deploy-rewards"
  | .registry => "deploy-super"
  | .tests => "test-program"

def description : Step → String
  | .rewards => "Deploy the rewards program and capture its program id."
  | .registry => "Deploy the registry program."
  | .tests => "Run the registry tests against the deployed programs."

def all : List Step := [.rewards, .registry, .tests]

def ofName? (name : String) : Option Step := all.find? (·.name == name)

end Step

/-- The command of a step, and the directory that it runs in. -/
structure StepCommand where
  name : String
  argv : List String
  cwd : Option Path
  description : String
  deriving DecidableEq, Repr

def StepCommand.directory (command : StepCommand) (workspace : Path) : Path :=
  match command.cwd with
  | none => workspace
  | some cwd => workspace.join cwd

structure Plan where
  rewards : StepCommand
  registry : StepCommand
  tests : StepCommand
  parameter : String
  timeout : Option Binary64
  deriving DecidableEq, Repr

namespace Plan

def command (plan : Plan) : Step → StepCommand
  | .rewards => plan.rewards
  | .registry => plan.registry
  | .tests => plan.tests

def withCommand (plan : Plan) (step : Step) (command : StepCommand) : Plan :=
  match step with
  | .rewards => { plan with rewards := command }
  | .registry => { plan with registry := command }
  | .tests => { plan with tests := command }

/-- The steps of a plan with their names, in order. -/
def steps (plan : Plan) : Entries StepCommand :=
  Step.all.map fun step => (step.name, plan.command step)

def usualParameter : String := "TEST_REWARDS_PROGRAM_ID"

/-- The usual words of a step's command, for a given make program. -/
def usualArgv (make : String) : Step → List String
  | .rewards => [make, "-s", "-C", "../rewards", "deploy"]
  | .registry => [make, "-s", "deploy-super"]
  | .tests => [make, "test-program-super"]

def usualCommand (make : String) (step : Step) : StepCommand where
  name := step.name
  argv := usualArgv make step
  cwd := none
  description := step.description

def usual (make : String) : Plan where
  rewards := usualCommand make .rewards
  registry := usualCommand make .registry
  tests := usualCommand make .tests
  parameter := usualParameter
  timeout := none

def argument (plan : Plan) (programId : String) : String := plan.parameter ++ "=" ++ programId

def forward (plan : Plan) (programId : String) : List String :=
  plan.tests.argv ++ [plan.argument programId]

end Plan

end Rollout
