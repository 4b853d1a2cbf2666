import Rollout.Machine.State
import Rollout.Shell.Format

/-!
What the commands of the shell have in common: complaints, output and the setting of variables.
-/

set_option autoImplicit false
set_option relaxedAutoImplicit false

namespace Rollout.Shell.Builtin

open Machine (Job Process Channel Child Halt)

def complain (text : String) : Job Unit := do
  let process ← Job.process
  Job.complain s!"{process.name}: {process.line}: {text}"

/-- Complain of something that ends the shell, unless a command catches it. -/
def raise {α : Type} (text : String) : Job α := do
  complain text
  throw .failed

def warn (text : String) (status : Nat) : Job Nat := do
  complain text
  return status

def natural (command text : String) : Job Nat :=
  match text.toNat? with
  | some n =>
    if text.all Char.isDigit && n < Nat.pow 2 31 then return n
    else raise s!"{command}: Illegal number: {text}"
  | none => raise s!"{command}: Illegal number: {text}"

def output (command : String) (bytes : List UInt8) : Job Nat := do
  if ← Job.write 1 bytes then return 0 else warn s!"{command}: {command}: I/O error" 1

def outputText (command text : String) : Job Nat := output command (Format.bytesOf text)

def requoted (text : String) : String :=
  "\x27" ++ String.ofList (text.toList.flatMap fun c =>
    if c == '\x27' then "\x27\"\x27\"\x27".toList else [c]) ++ "\x27"

def assign (command : Option String) (name value : String) : Job Unit := do
  let process ← Job.process
  if ((process.store.get? name).map (·.fixed)).getD false then
    raise ((command.map (· ++ ": ")).getD "" ++ s!"{name}: is read only")
  else
    Job.alter fun process =>
      let process := process.set name value
      if process.flags.contains 'a' then
        { process with store := process.store.put name ⟨some value, true, false⟩ }
      else process

end Rollout.Shell.Builtin
