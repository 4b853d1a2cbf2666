import Rollout.Text.Quoted

/-!
Why a file cannot be used: a cause with its number, and the name under which it was asked for.
-/

set_option autoImplicit false
set_option relaxedAutoImplicit false

namespace Rollout.Disk

inductive Cause
  | absent
  | unrecognised
  | barred
  | notDirectory
  | isDirectory
  | invalid
  | taken
  | busy
  | nameTooLong
  | linkLoop
  | argumentsTooLong
  deriving DecidableEq, Repr

def Cause.number : Cause → Nat
  | .absent => 2
  | .argumentsTooLong => 7
  | .unrecognised => 8
  | .barred => 13
  | .taken => 17
  | .busy => 26
  | .notDirectory => 20
  | .isDirectory => 21
  | .invalid => 22
  | .nameTooLong => 36
  | .linkLoop => 40

def Cause.words : Cause → String
  | .absent => "No such file or directory"
  | .argumentsTooLong => "Argument list too long"
  | .unrecognised => "Exec format error"
  | .barred => "Permission denied"
  | .taken => "File exists"
  | .busy => "Text file busy"
  | .notDirectory => "Not a directory"
  | .isDirectory => "Is a directory"
  | .invalid => "Invalid argument"
  | .nameTooLong => "File name too long"
  | .linkLoop => "Too many levels of symbolic links"

/-- A refusal of the disk, with the name that was asked for where there is one. -/
structure Fault where
  cause : Cause
  name : Option String
  deriving DecidableEq, Repr

def Fault.message (f : Fault) : String :=
  let start := s!"[Errno {f.cause.number}] {f.cause.words}"
  match f.name with
  | none => start
  | some name => start ++ ": " ++ Text.quoted name

/-- Why a path has no resolved path. -/
inductive Unresolved
  | loop (text : String)
  | endless
  deriving DecidableEq, Repr

def Unresolved.message : Unresolved → String
  | .loop text => s!"Symlink loop from {Text.quoted text}"
  | .endless => "maximum recursion depth exceeded"

end Rollout.Disk
