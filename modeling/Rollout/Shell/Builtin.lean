import Rollout.Environment
import Rollout.Machine.Tool
import Rollout.Shell.Builtin.Reading
import Rollout.Shell.Builtin.Signals
import Rollout.Shell.Builtin.Variables

/-!
Commands of the shell that run no scripts.

They act on the process itself: on its variables, its directory, its traps and its children. Some
are special: where they fail, the shell ends.
-/

set_option autoImplicit false
set_option relaxedAutoImplicit false

namespace Rollout.Shell.Builtin

open Machine (Job Process Channel Child Halt)

/-! ## The directory -/

/-- The path that a path leads to from another one, by its text. -/
def pathFrom (known path : String) : String :=
  let start := if Disk.fromTop path then [] else (Disk.namesOf known).filter (!·.isEmpty)
  "/" ++ "/".intercalate (Disk.cancel start (Disk.namesOf path))

def cd (words : List String) : Job Nat := do
  let process ← Job.process
  let words := words.filter fun word => word != "-L" && word != "--" && word != "-P"
  let back := words.head? = some "-"
  let path :=
    match words with
    | "-" :: _ => (process.value? "OLDPWD").getD ""
    | path :: _ => path
    | [] => (process.value? "HOME").getD ""
  let target := pathFrom process.known (if path.isEmpty then "." else path)
  match (← get).commons.disk.find process.here target with
  | .ok (place, .directory _) =>
    Job.alter fun process =>
      let share (store : Entries Machine.Variable) (name value : String) :=
        store.put name ⟨some value, true, false⟩
      { process with
        here := place
        known := target
        store := share (share process.store "OLDPWD" process.known) "PWD" target }
    if back then outputText "cd" (target ++ "\n") else return 0
  | _ => warn s!"cd: can't cd to {path}" 2

def pwd (words : List String) : Job Nat := do
  let process ← Job.process
  outputText "pwd" ((if words.contains "-P" then process.directory else process.known) ++ "\n")

/-! ## Printing and testing -/

def printf (words : List String) : Job Nat := do
  let isMarked := words.head? = some "--"
  match if isMarked then words.drop 1 else words with
  | [] => warn "printf: usage: printf format [arg ...]" 2
  | form :: rest =>
    if !isMarked && form.startsWith "-" && form.length > 1 then
      warn s!"printf: Illegal option {(form.take 2).toString}" 2
    else
    let printed := Format.printf .shell form rest
    let status ← output "printf" printed.bytes
    printed.complaints.forM fun text => complain s!"printf: {text}"
    return max status (if printed.refused then 2 else if printed.complaints.isEmpty then 0 else 1)

def test (command : String) (words : List String) : Job Nat := do
  let state ← get
  if command == "[" && words.getLast? != some "]" then warn "[: missing ]" 2
  else
    let words := if command == "[" then words.dropLast else words
    match Machine.Condition.holds false state.commons.disk state.process.here words with
    | .ok true => return 0
    | .ok false => return 1
    | .error fault => warn s!"{command}: {fault.message}" 2

/-! ## Other commands -/

def octal (width n : Nat) : String :=
  let digits := Format.digitsIn 8 n
  String.ofList (List.replicate (width - digits.length) '0') ++ digits

def umask (words : List String) : Job Nat := do
  let mask := (← Job.process).mask
  match words with
  | [] => outputText "umask" (octal 4 mask ++ "\n")
  | "-S" :: _ =>
    let rights (bits : Nat) : String :=
      String.join (([(4, "r"), (2, "w"), (1, "x")].filter fun right =>
        bits / right.1 % 2 = 0).map (·.2))
    outputText "umask"
      s!"u={rights (mask / 64)},g={rights (mask / 8)},o={rights mask}\n"
  | word :: _ =>
    if word.all fun c => '0' ≤ c && c ≤ '7' then
      let mask := word.toList.foldl (fun n c => n * 8 + (c.toNat - '0'.toNat)) 0
      Job.alter ({ · with mask := mask % 512 })
      return 0
    else if (word.toList.head?.map Char.isDigit).getD false then
      warn s!"umask: Illegal number: {word}" 2
    else warn s!"umask: Illegal mode: {word}" 2

def specialNames : List String := [
  ".", ":", "break", "continue", "eval", "exec", "exit", "export", "local", "readonly", "return",
  "set", "shift", "times", "trap", "unset"]

def plainNames : List String := [
  "[", "alias", "bg", "cd", "chdir", "command", "echo", "false", "fg", "getopts", "hash", "jobs",
  "kill", "printf", "pwd", "read", "test", "true", "type", "ulimit", "umask", "unalias",
  "wait"]

def reserved : List String := [
  "!", "case", "do", "done", "elif", "else", "esac", "fi", "for", "if", "in", "then", "until",
  "while", "\x7b", "\x7d"]

/-- What a name stands for where a command is looked for. -/
inductive Meaning
  | reserved
  | function
  | special
  | builtin
  | file (path : String)
  | nothing
  deriving DecidableEq, Repr

def fileOf (process : Process) (disk : Disk) (name : String) : Option String :=
  (Machine.searchPaths ((process.value? "PATH").getD "") name).find? fun path =>
    match disk.find process.here path with
    | .ok (_, .program _) => true
    | .ok (_, .file _ mode) => Machine.isExecutable mode
    | _ => false

def meaningOf (process : Process) (disk : Disk) (name : String) : Meaning :=
  if reserved.contains name then .reserved
  else if (process.functions.get? name).isSome then .function
  else if specialNames.contains name then .special
  else if plainNames.contains name then .builtin
  else match fileOf process disk name with
    | some path => .file path
    | none => .nothing

def type (words : List String) : Job Nat := do
  let state ← get
  words.foldlM (fun status name => do
    let tell (text : String) : Job Nat := do
      let _ ← outputText "type" (name ++ text ++ "\n")
      return status
    match meaningOf state.process state.commons.disk name with
    | .reserved => tell " is a shell keyword"
    | .function => tell " is a shell function"
    | .special => tell " is a special shell builtin"
    | .builtin => tell " is a shell builtin"
    | .file path => tell s!" is {path}"
    | .nothing =>
      let _ ← outputText "type" (name ++ ": not found\n")
      return 127) 0

def locate (words : List String) : Job Nat := do
  let state ← get
  match words with
  | [] => return 0
  | name :: _ =>
    match meaningOf state.process state.commons.disk name with
    | .nothing => return 127
    | .file path => outputText "command" (path ++ "\n")
    | _ => outputText "command" (name ++ "\n")

/-- Run a command of the shell that runs no scripts. -/
def job? (name : String) (words : List String) : Option (Job Nat) :=
  match name with
  | ":" | "true" | "hash" | "alias" | "jobs" => some (return 0)
  | "false" => some (return 1)
  | "fg" | "bg" => some (warn s!"{name}: No current job" 2)
  | "echo" => some (output "echo" (Format.echo .shell words))
  | "printf" => some (printf words)
  | "test" | "[" => some (test name words)
  | "cd" | "chdir" => some (cd words)
  | "pwd" => some (pwd words)
  | "read" => some (read words)
  | "kill" => some (kill words)
  | "wait" => some (wait words)
  | "trap" => some (trap words)
  | "export" => some (export' words)
  | "readonly" => some (readonly words)
  | "unset" => some (unset words)
  | "set" => some (set words)
  | "shift" => some (shift words)
  | "local" => some (local' words)
  | "umask" => some (umask words)
  | "ulimit" => some (outputText "ulimit" "unlimited\n")
  | "times" => some (outputText "times" "0m0.000000s 0m0.000000s\n0m0.000000s 0m0.000000s\n")
  | "type" => some (type words)
  | "getopts" => some (getopts words)
  | _ => none

end Rollout.Shell.Builtin
