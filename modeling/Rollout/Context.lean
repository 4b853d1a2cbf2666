import Rollout.Plan.File
import Rollout.Settings

/-!
The context of a rollout: what every stage is given, with the outcomes of the stages before it.
-/

set_option autoImplicit false
set_option relaxedAutoImplicit false

namespace Rollout

structure Outcome where
  step : String
  result : Option Result
  programId : Option String
  deriving DecidableEq, Repr

structure Context where
  settings : Settings
  plan : Plan
  runId : String
  timestamp : Moment
  workspace : Path
  outcomes : Entries Outcome
  deriving DecidableEq, Repr

namespace Context

/-- How long each command may take: the settings' timeout, else the plan's. -/
def timeout (context : Context) : Option Number.Binary64 :=
  context.settings.timeout.or context.plan.timeout

def programId (context : Context) : Option String :=
  (context.outcomes.get? Step.rewards.name).bind (·.programId)

def record (context : Context) (name : String) (outcome : Outcome) : Context :=
  { context with outcomes := context.outcomes.put name outcome }

/-- The context of settings and a plan at a moment, before any stage. -/
def start (settings : Settings) (plan : Plan) (now : Moment) : Context where
  settings := settings
  plan := plan
  runId := now.digits
  timestamp := now
  workspace := settings.workspace
  outcomes := []

def load (disk : Disk) (environment : Environment) (now : Moment) : Except Fault Context := do
  let settings ← Settings.load disk environment
  let plan ← Plan.load disk settings.make settings.planPath
  return start settings plan now

end Context

end Rollout
