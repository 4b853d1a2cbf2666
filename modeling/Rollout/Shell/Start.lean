import Rollout.Machine.Tool
import Rollout.Shell.Builtin.Variables

/-!
How a program is started: the process that it starts in, the image that is found for its name, and
what a shell or a starter of programs is asked by its arguments.
-/

set_option autoImplicit false
set_option relaxedAutoImplicit false

namespace Rollout.Shell.Start

open Machine (Process)

/-- Where a shell looks for programs if its environment does not say it. -/
def usualSearch : String := "/usr/local/sbin:/usr/local/bin:/usr/sbin:/usr/bin:/sbin:/bin"

def renewed (environment : Entries String) (process : Process) : Process :=
  { process with
    store := environment.map fun (name, value) => (name, ⟨some value, true, false⟩)
    functions := []
    kept := none
    traps := process.traps.filter (·.2.isEmpty)
    flags := []
    arguments := []
    loops := 0
    tested := false
    captured := false }

/-- The image that a shell starts for a name. A file that is no program is a script. -/
def imageFor (process : Process) (disk : Disk) (search name : String) :
    Except Disk.Cause Machine.Image :=
  let paths := Machine.searchPaths search name
  let script? := paths.find? fun path =>
    match Machine.image disk process.here Machine.interpreterLimit path with
    | .ok _ | .error .unrecognised => true
    | .error _ => false
  match script? with
  | some path =>
    match Machine.image disk process.here Machine.interpreterLimit path with
    | .ok found => .ok found
    | .error _ => .ok ⟨"sh", ["/bin/sh", path]⟩
  | none => Machine.search disk process.here paths

def absence (cause : Disk.Cause) : Nat :=
  match cause with
  | .absent | .notDirectory | .linkLoop | .nameTooLong => 127
  | _ => 126

def absenceWords (cause : Disk.Cause) : String :=
  match cause with
  | .absent | .notDirectory => "not found"
  | cause => cause.words

/-- The switches of `env`: what the environment is to be, and the words behind them. -/
def envSwitches (room : Nat) (environment : Entries String) (words : List String) :
    Except String (Entries String × List String) :=
  match room, words with
  | 0, _ | _, [] => .ok (environment, words)
  | room + 1, word :: rest =>
    if word == "-i" || word == "-" then envSwitches room [] rest
    else if word == "-u" then
      match rest with
      | name :: rest => envSwitches room (environment.filter (·.1 != name)) rest
      | [] => .error "option requires an argument -- 'u'"
    else if word.startsWith "-u" then
      envSwitches room (environment.filter (·.1 != (word.drop 2).toString)) rest
    else if word == "--" then .ok (environment, rest)
    else if word.startsWith "-S" then
      let (text, rest) := if word == "-S" then (rest.headD "", rest.drop 1)
        else ((word.drop 2).toString, rest)
      envSwitches room environment ((text.splitOn " ").filter (!·.isEmpty) ++ rest)
    else if word.startsWith "-" then
      .error ("invalid option -- " ++ Machine.Tool.straight ((word.take 2).drop 1).toString)
    else
      match Environment.splitAtEquals word.toList with
      | some (name, value) =>
        envSwitches room (environment.put (String.ofList name) (String.ofList value)) rest
      | none => .ok (environment, word :: rest)

/-- How a shell is asked to run: the settings, and whether a command is given. -/
structure Asked where
  letters : List Char
  hasCommand : Bool
  words : List String

def asked : List String → Except String Asked
  | [] => .ok ⟨[], false, []⟩
  | "--" :: rest | "-" :: rest => .ok ⟨[], false, rest⟩
  | "-o" :: name :: rest => do
    let more ← asked rest
    match Builtin.flagNames.find? (·.2 == name) with
    | some (letter, _) => return { more with letters := letter :: more.letters }
    | none => throw s!"Illegal option -o {name}"
  | word :: rest =>
    if word.startsWith "-" && word.length > 1 then do
      let letters := word.toList.drop 1
      match letters.find? fun c => c != 'c' && !Builtin.flagNames.any (·.1 == c) with
      | some c => throw s!"Illegal option -{c}"
      | none =>
        let more ← asked rest
        return ⟨letters.filter (· != 'c') ++ more.letters,
          letters.contains 'c' || more.hasCommand, more.words⟩
    else .ok ⟨[], false, word :: rest⟩

end Rollout.Shell.Start
