import Rollout.Entries
import Rollout.Number.Binary64
import Rollout.Path

/-!
Commands and how they end.

A call is everything that the running of a command depends on: its words, its directory, the
variables put over the environment, whether its output is kept and how long it may take. A command
ends in one of five ways, and each way has a status.
-/

set_option autoImplicit false
set_option relaxedAutoImplicit false

namespace Rollout

open Number (Binary64)

structure Call where
  argv : List String
  directory : Path
  overlay : Option (Entries String)
  capture : Bool
  timeout : Option Binary64
  deriving DecidableEq, Repr

inductive Ending
  | barred
  | absent
  | expired
  | exited (status : Nat)
  | killed (signal : Nat)
  deriving DecidableEq, Repr

namespace Ending

def expiredStatus : Int := 124

def barredStatus : Int := 126

def absentStatus : Int := 127

/-- The status that tells how a command ended; below zero for a signal. -/
def status : Ending → Int
  | .barred => barredStatus
  | .absent => absentStatus
  | .expired => expiredStatus
  | .exited status => status
  | .killed signal => -(signal : Int)

end Ending

structure Result where
  argv : List String
  status : Int
  output : Option String
  timedOut : Bool
  deriving DecidableEq, Repr

namespace Result

def ok (r : Result) : Bool := r.status == 0 && !r.timedOut

def ofEnding (argv : List String) (ending : Ending) (output : Option String) : Result where
  argv := argv
  status := ending.status
  output := output
  timedOut := ending = .expired

def reason (r : Result) : String :=
  let what := if r.timedOut then "timed out" else s!"exited with status {r.status}"
  " ".intercalate r.argv ++ " " ++ what

/-- The exit code of a program that fails because of this command: the command's status where that
is positive, else one. -/
def exitCode (r : Result) : Int := if r.status > 0 then r.status else 1

end Result

end Rollout
