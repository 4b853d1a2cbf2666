import Rollout.Machine.State
import Rollout.Shell.Field
import Rollout.Shell.Format

/-!
The parameters of a shell: what they stand for, and the cells of their values.
-/

set_option autoImplicit false
set_option relaxedAutoImplicit false

namespace Rollout.Shell.Parameter

open Machine (Process)

def parameter? (process : Process) (name : String) : Option String :=
  match name with
  | "#" => some (toString process.arguments.length)
  | "?" => some (toString process.status)
  | "$" => some (toString process.shell)
  | "!" => process.lastChild.map toString
  | "-" => some (String.ofList process.flags)
  | "0" => some process.name
  | _ =>
    if name.all Char.isDigit then (name.toNat?).bind fun n => process.arguments[n - 1]?
    else process.value? name

def separators (process : Process) : List Char :=
  ((process.value? "IFS").getD " \t\n").toList

def joined (process : Process) : String :=
  let between :=
    match process.value? "IFS" with
    | none => " "
    | some text => String.ofList (text.toList.take 1)
  between.intercalate process.arguments

def valueCells? (process : Process) (quoted : Bool) (name : String) : Option (List Cell) :=
  let each : Option (List Cell) :=
    if process.arguments.isEmpty then none
    else some ([Cell.cut].intercalate (process.arguments.map fun word =>
      (if quoted then [Cell.mark] else []) ++ Cell.ofText quoted (!quoted) word))
  match name, quoted with
  | "@", _ | "*", false => each
  | "*", true =>
    if process.arguments.isEmpty then none else some (Cell.ofText true false (joined process))
  | _, _ => (parameter? process name).map (Cell.ofText quoted (!quoted))

/-- The directory that a tilde at the start of a word stands for, and the rest of the word. -/
def withoutTilde (process : Process) (word : Word) : Word :=
  match word with
  | .plain text :: rest =>
    let cs := text.toList
    let name := cs.takeWhile (· != '/')
    let home :=
      match name with
      | ['~'] => process.value? "HOME"
      | ['~', 'r', 'o', 'o', 't'] => some "/root"
      | _ => none
    if rest.isEmpty || name.length < cs.length then
      match home with
      | some home => .quoted home :: .plain (String.ofList (cs.drop name.length)) :: rest
      | none => word
    else word
  | word => word

/-- The variables that the programs of a shell see, in their order. -/
def environment (process : Process) : Entries String :=
  let bucket (name : String) : Nat :=
    let bytes := Format.bytesOf name
    (bytes.foldl (fun n b => n + b.toNat) ((bytes.headD 0).toNat * 16)) % 39
  process.environment.mergeSort fun a b => bucket a.1 ≤ bucket b.1

end Rollout.Shell.Parameter
