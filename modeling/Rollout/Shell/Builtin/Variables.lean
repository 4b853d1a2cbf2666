import Rollout.Environment
import Rollout.Shell.Builtin.Basic
import Rollout.Shell.Token

/-!
The commands of the shell that act on variables, on settings and on arguments.
-/

set_option autoImplicit false
set_option relaxedAutoImplicit false

namespace Rollout.Shell.Builtin

open Machine (Job Process Channel Child Halt)

def mark (command : String) (change : Machine.Variable → Machine.Variable) (words : List String) :
    Job Nat := do
  for word in words do
    let (name, value) : List Char × Option String :=
      match Environment.splitAtEquals word.toList with
      | some (name, value) => (name, some (String.ofList value))
      | none => (word.toList, none)
    let key := String.ofList name
    if word.startsWith "-" && word != "-p" then raise s!"{command}: Illegal option {word}"
    if !isName name then raise s!"{command}: {key}: bad variable name"
    if let some value := value then assign (some command) key value
    Job.alter fun process =>
      let old := (process.store.get? key).getD ⟨none, false, false⟩
      { process with store := process.store.put key (change old) }
  return 0

/-- Show the variables that are chosen, sorted, each as a command that sets it. -/
def showVariables (front : String) (chosen : Machine.Variable → Bool) : Job Nat := do
  let process ← Job.process
  let shown := (process.store.filter fun entry => chosen entry.2).mergeSort
    fun a b => !decide (b.1 < a.1)
  outputText "set" ("".intercalate (shown.map fun (name, v) =>
    front ++ name ++ ((v.value.map ("=" ++ requoted ·)).getD "") ++ "\n"))

def export' (words : List String) : Job Nat :=
  match words with
  | [] | ["-p"] => showVariables "export " (·.shared)
  | words => mark "export" ({ · with shared := true }) (words.filter (· != "--"))

def readonly (words : List String) : Job Nat :=
  match words with
  | [] | ["-p"] => showVariables "readonly " (·.fixed)
  | words => mark "readonly" ({ · with fixed := true }) words

def unset (words : List String) : Job Nat := do
  let functions := words.head? = some "-f"
  for name in words.filter fun word => word != "-f" && word != "-v" do
    let process ← Job.process
    if functions then
      Job.alter fun process =>
        { process with functions := process.functions.filter (·.1 != name) }
    else if !isName name.toList then raise s!"unset: {name}: bad variable name"
    else if ((process.store.get? name).map (·.fixed)).getD false then
      raise s!"unset: {name}: is read only"
    else
      Job.alter fun process =>
        { process with store := process.store.filter (·.1 != name) }
  return 0

def flagNames : List (Char × String) := [
  ('a', "allexport"), ('b', "notify"), ('C', "noclobber"), ('e', "errexit"), ('f', "noglob"),
  ('I', "ignoreeof"), ('i', "interactive"), ('m', "monitor"), ('n', "noexec"), ('s', "stdin"),
  ('E', "emacs"), ('V', "vi"), ('u', "nounset"), ('v', "verbose"), ('x', "xtrace"),
  ('q', "quietprofile"), ('l', "")]

def setFlag (on : Bool) (letter : Char) : Job Unit := Job.alter fun process =>
  let others := process.flags.filter (· != letter)
  { process with flags := if on then others ++ [letter] else others }

def setFlags (command : String) (on : Bool) (letters : List Char) : Job Unit :=
  letters.forM fun letter =>
    if flagNames.any (·.1 == letter) then setFlag on letter
    else
      let sign := if on then "-" else "+"
      raise s!"{command}Illegal option {sign}{letter}"

/-- Read settings in front of arguments; the answer is what stands behind them, if they end. -/
def settings (command : String) (room : Nat) (words : List String) : Job (Option (List String)) :=
  match room, words with
  | 0, _ | _, [] => return none
  | room + 1, word :: rest =>
    let on := word.startsWith "-"
    if word == "--" then return some rest
    else if word == "-" then return if rest.isEmpty then none else some rest
    else if (word == "-o" || word == "+o") && !rest.isEmpty then do
      let name := rest.headD default
      match flagNames.find? fun (_, found) => found == name && !name.isEmpty with
      | some (letter, _) => setFlag on letter
      | none => raise s!"{command}Illegal option {word} {name}"
      settings command room (rest.drop 1)
    else if (on || word.startsWith "+") && word.length > 1 then do
      let letters := word.toList.drop 1
      match letters.getLast?, rest with
      | some 'o', name :: rest =>
        setFlags command on letters.dropLast
        settings command room ((if on then "-o" else "+o") :: name :: rest)
      | _, rest =>
        setFlags command on letters
        settings command room rest
    else return some (word :: rest)

def set (words : List String) : Job Nat :=
  match words with
  | [] => showVariables "" fun _ => true
  | words => do
    match ← settings "set: " (words.length + 1) words with
    | some arguments => Job.alter ({ · with arguments := arguments })
    | none => pure ()
    return 0

def shift (words : List String) : Job Nat := do
  let n ← match words with
    | [] => pure 1
    | word :: _ => natural "shift" word
  let process ← Job.process
  if n > process.arguments.length then raise "shift: can't shift that many"
  Job.alter fun process => { process with arguments := process.arguments.drop n }
  return 0

def local' (words : List String) : Job Nat := do
  for word in words do
    let (name, value) : String × Option String :=
      match Environment.splitAtEquals word.toList with
      | some (name, value) => (String.ofList name, some (String.ofList value))
      | none => (word, none)
    match (← Job.process).kept with
    | none => raise "local: not in a function"
    | some kept =>
      Job.alter fun process =>
        { process with kept := some ((name, process.store.get? name) :: kept) }
    if let some value := value then assign (some "local") name value
  return 0

end Rollout.Shell.Builtin
