import Rollout.Disk
import Rollout.Entries
import Rollout.Fault
import Rollout.Text.Blank

/-!
The environment, and the files that seed it.

A seed file holds one assignment a line, a name, an equals sign and a value that may stand between
double quotes. Blank lines, comments and lines without an equals sign say nothing. A seed never
changes a variable that is already there, so the first assignment of a name counts.
-/

set_option autoImplicit false
set_option relaxedAutoImplicit false

namespace Rollout

abbrev Environment := Entries String

namespace Environment

open Text (trim stripWhile)

def given? (environment : Environment) (name : String) : Option String :=
  (environment.get? name).filter (!·.isEmpty)

/-- The part of a text before the first equals sign and the part after it. -/
def splitAtEquals : List Char → Option (List Char × List Char)
  | [] => none
  | c :: rest =>
    if c == '=' then some ([], rest)
    else (splitAtEquals rest).map fun (before, after) => (c :: before, after)

def assignment? (line : List Char) : Option (String × String) :=
  let line := trim line
  if line.head? = some '#' then none
  else (splitAtEquals line).map fun (name, value) =>
    (String.ofList (trim name), String.ofList (stripWhile (· == '"') (trim value)))

def assignments (lines : List (List Char)) : List (String × String) := lines.filterMap assignment?

/-- Define a variable unless it is there. Names and values hold no null character, and a name is not
empty. -/
def define (environment : Environment) (name value : String) : Except Fault Environment :=
  if environment.has name then .ok environment
  else if name.contains '\x00' || value.contains '\x00' then .error .nullCharacter
  else if name.isEmpty then .error (.disk ⟨.invalid, none⟩)
  else .ok (environment ++ [(name, value)])

/-- Define variables one by one, up to the first that cannot be defined. -/
def defineAll (environment : Environment) : List (String × String) → Environment × Option Fault
  | [] => (environment, none)
  | (name, value) :: rest =>
    match environment.define name value with
    | .ok environment => defineAll environment rest
    | .error fault => (environment, some fault)

/-- The text up to its last line end. A carriage return at the very end does not count, for a line
feed may follow it. -/
def whole (text : List Char) : List Char :=
  let kept := if text.getLast? = some '\r' then text.dropLast else text
  ((Text.unifyLineEnds kept).reverse.dropWhile (· != '\n')).reverse

/-- Seed the environment from the bytes of a file. Where the bytes stop being text, the lines that
were complete before count. -/
def seed (environment : Environment) (bytes : List UInt8) : Environment × Option Fault :=
  match Text.Utf8.decodeFile bytes with
  | (text, none) => environment.defineAll (assignments (Text.lines (Text.unifyLineEnds text)))
  | (text, some fault) =>
    match environment.defineAll (assignments (Text.lines (whole text))) with
    | (environment, none) => (environment, some (.undecodable fault))
    | failed => failed

/-- Seed the environment from files, passing over those that are not there. -/
def seedAll (disk : Disk) (environment : Environment) : List Path → Environment × Option Fault
  | [] => (environment, none)
  | path :: rest =>
    match disk.hasEntry path with
    | .error fault => (environment, some (.disk fault))
    | .ok false => seedAll disk environment rest
    | .ok true =>
      match disk.read path with
      | .error fault => (environment, some (.disk fault))
      | .ok bytes =>
        match environment.seed bytes with
        | (environment, none) => seedAll disk environment rest
        | failed => failed

/-- The seed files: the one that the environment names, then the usual one. -/
def seedFiles (environment : Environment) : List Path :=
  ((environment.given? "ENV_FILE").map Path.ofString).toList ++ [Path.ofString ".env"]

/-- Seed the environment from its seed files. A fault leaves what was defined before it. -/
def load (disk : Disk) (environment : Environment) : Environment × Option Fault :=
  seedAll disk environment environment.seedFiles

example : assignment? " A = \"b = c\" ".toList = some ("A", "b = c") := by decide +kernel

example : assignment? "# A=b".toList = none := by decide +kernel

end Environment

end Rollout
