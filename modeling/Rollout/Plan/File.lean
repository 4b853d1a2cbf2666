import Rollout.Disk
import Rollout.Plan.Payload
import Rollout.Yaml.Document

/-!
Plans from files.
-/

set_option autoImplicit false
set_option relaxedAutoImplicit false

namespace Rollout.Plan

def ofDocumentFault : Yaml.Fault → Rollout.Fault
  | .malformed => .plan (.malformed Yaml.malformedText)
  | .value fault => .value fault
  | .undecodable fault => .undecodable fault

def payload (bytes : List UInt8) : Except Rollout.Fault Value :=
  (Yaml.readFile bytes).mapError ofDocumentFault

/-- Load the plan of a file; without a file it is the usual plan. -/
def load (disk : Disk) (make : String) : Option Path → Except Rollout.Fault Plan
  | none => .ok (usual make)
  | some path => do
    if !(← (disk.hasEntry path).mapError .disk) then throw (.plan (.notFound path))
    let bytes ← (disk.read path).mapError .disk
    ofPayload make (← payload bytes)

end Rollout.Plan
