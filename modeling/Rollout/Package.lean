import Rollout.Fault

/-!
What the program tells of itself.
-/

set_option autoImplicit false
set_option relaxedAutoImplicit false

namespace Rollout.Package

def name : String := "sequencer"

def version : String := "0.1.0"

def purpose : String := "Deploy the rewards and registry programs, then run the registry tests."

def offered : List String := [
  "__version__", "DeploymentPlan", "StageContext", "StageRunner", "Settings", "registry",
  "bootstrap", "create_default_context"]

/-- A property of the program: a text or the names that it offers. -/
inductive Property
  | text (s : String)
  | offered (names : List String)
  deriving DecidableEq, Repr

def property (label : String) : Except Fault Property :=
  match label with
  | "__version__" => .ok (.text version)
  | "__name__" | "__package__" => .ok (.text name)
  | "__doc__" => .ok (.text purpose)
  | "__all__" => .ok (.offered offered)
  | _ => .error (.unknownAttribute label)

end Rollout.Package
