import Rollout.Machine.Tool.Files
import Rollout.Machine.Tool.Small

/-!
The programs of the system, by name.
-/

set_option autoImplicit false
set_option relaxedAutoImplicit false

namespace Rollout.Machine

/-- The programs that start no other programs. -/
def tools : List (String × Tool) := [
  ("[", Tool.test), ("basename", Tool.basename), ("cat", Tool.cat), ("chmod", Tool.chmod),
  ("cp", Tool.transfer false), ("dirname", Tool.dirname), ("echo", Tool.echo),
  ("false", Tool.false'), ("head", Tool.head), ("id", Tool.id'), ("ln", Tool.ln), ("ls", Tool.ls),
  ("mkdir", Tool.mkdir), ("mv", Tool.transfer true), ("printenv", Tool.printenv),
  ("printf", Tool.printf), ("pwd", Tool.pwd), ("readlink", Tool.readlink), ("rm", Tool.rm),
  ("rmdir", Tool.rmdir), ("seq", Tool.seq), ("sleep", Tool.sleep), ("sort", Tool.sort),
  ("sync", Tool.true'), ("tail", Tool.tail), ("tee", Tool.tee), ("test", Tool.test),
  ("touch", Tool.touch), ("tr", Tool.tr), ("true", Tool.true'), ("uniq", Tool.uniq),
  ("wc", Tool.wc), ("whoami", Tool.whoami), ("yes", Tool.yes)]

def tool? (name : String) : Option Tool := (tools.find? (·.1 == name)).map (·.2)

def shells : List String := ["bash", "dash", "sh"]

def starters : List String := ["env", "nice", "nohup", "setsid", "timeout"]

def programs : List String := tools.map (·.1) ++ shells ++ starters

end Rollout.Machine
