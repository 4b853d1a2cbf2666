import Rollout.Environment
import Rollout.Plan.Payload

/-!
Settings: what the environment says about a rollout.

The workspace is resolved. The plan file is the one that the environment names, or else the usual
one in the workspace, if it is there.
-/

set_option autoImplicit false
set_option relaxedAutoImplicit false

namespace Rollout

structure Settings where
  workspace : Path
  planPath : Option Path
  timeout : Option Number.Binary64
  make : String
  logLevel : String
  deriving DecidableEq, Repr

namespace Settings

def usualPlanFile : String := "sequencer.yaml"

def timeoutLabel : String := "SEQUENCER_TIMEOUT"

def planPath? (disk : Disk) (environment : Environment) (workspace : Path) :
    Except Fault (Option Path) :=
  match environment.given? "SEQUENCER_CONFIG" with
  | some text => .ok (some (.ofString text))
  | none => do
    let path := workspace.child usualPlanFile
    let found ← (disk.hasEntry path).mapError .disk
    return if found then some path else none

/-- Read the settings from the environment. -/
def load (disk : Disk) (environment : Environment) : Except Fault Settings := do
  let named := Path.ofString ((environment.get? "SEQUENCER_WORKSPACE").getD ".")
  let workspace ← (disk.resolve named).mapError .unresolved
  let planPath ← planPath? disk environment workspace
  let timeout ←
    match environment.given? timeoutLabel with
    | some text => (Plan.timeout? (.text text) timeoutLabel).map some
    | none => pure none
  return {
    workspace := workspace
    planPath := planPath
    timeout := timeout
    make := (environment.get? "SEQUENCER_MAKE").getD "make"
    logLevel := (environment.get? "LOG_LEVEL").getD "INFO" }

end Settings

end Rollout
