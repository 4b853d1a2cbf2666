import Rollout.Message

/-!
The weights of log records, as numbers and as names.
-/

set_option autoImplicit false
set_option relaxedAutoImplicit false

namespace Rollout

namespace Level

def weight : Level → Int
  | .debug => 10
  | .info => 20
  | .warning => 30
  | .error => 40
  | .critical => 50

def name : Level → String
  | .debug => "DEBUG"
  | .info => "INFO"
  | .warning => "WARNING"
  | .error => "ERROR"
  | .critical => "CRITICAL"

end Level

namespace Log

/-- The names that a weight can be given by. -/
def weights : List (String × Int) := [
  ("CRITICAL", 50), ("FATAL", 50), ("ERROR", 40), ("WARN", 30), ("WARNING", 30), ("INFO", 20),
  ("DEBUG", 10), ("NOTSET", 0)]

def weight? (name : String) : Option Int := (weights.find? (·.1 == name)).map (·.2)

end Log

end Rollout
