import Rollout.Machine.State
import Rollout.Shell.Format

/-!
What programs of the system have in common: switches in front of their operands, complaints under
their name, and files that are opened by their path.
-/

set_option autoImplicit false
set_option relaxedAutoImplicit false

namespace Rollout.Machine

/-- What a program does, given the name that it was run by and its arguments. The answer is its
status. -/
abbrev Tool := String → List String → Job Nat

structure Switches where
  given : List (Char × String)
  operands : List String
  deriving DecidableEq, Repr

namespace Switches

def has (switches : Switches) (letter : Char) : Bool := switches.given.any (·.1 == letter)

def value? (switches : Switches) (letter : Char) : Option String :=
  (switches.given.reverse.find? (·.1 == letter)).map (·.2)

/-- Read the letters behind one dash. A letter that has a value takes the rest of the word, or else
the next word. -/
def cluster (plain valued : List Char) (rest : List String) :
    List Char → Except String (List (Char × String) × List String)
  | [] => .ok ([], rest)
  | c :: cs =>
    if plain.contains c then do
      let (more, rest) ← cluster plain valued rest cs
      return ((c, "") :: more, rest)
    else if valued.contains c then
      match cs, rest with
      | [], [] => .error s!"option requires an argument -- '{c}'"
      | [], value :: rest => .ok ([(c, value)], rest)
      | cs, rest => .ok ([(c, String.ofList cs)], rest)
    else .error s!"invalid option -- '{c}'"

/-- Read arguments; switches may stand between operands, unless two dashes end them. -/
def read (plain valued : List Char) (room : Nat) (words : List String) :
    Except String Switches :=
  match room, words with
  | 0, _ | _, [] => .ok ⟨[], []⟩
  | _, "--" :: rest => .ok ⟨[], rest⟩
  | room + 1, word :: rest =>
    if word.startsWith "--" then .error s!"unrecognized option '{word}'"
    else if word.startsWith "-" && word != "-" then do
      let (given, rest) ← cluster plain valued rest (word.toList.drop 1)
      let more ← read plain valued room rest
      return ⟨given ++ more.given, more.operands⟩
    else do
      let more ← read plain valued room rest
      return ⟨more.given, word :: more.operands⟩

end Switches

namespace Tool

def curly (text : String) : String := s!"\u2018{text}\u2019"

def straight (text : String) : String := s!"'{text}'"

/-- Whether a path is quoted in messages that quote only where they need to. -/
def isOdd (path : String) : Bool :=
  path.isEmpty || path.any " \t\n!\"$&\x27()*;<=>?[\\]^\x60\x7b|\x7d".toList.contains ||
    path.startsWith "~" || path.startsWith "#"

def seen (path : String) : String := if isOdd path then straight path else path

def fail (name text : String) (status : Nat) : Job Nat := do
  Job.complain s!"{name}: {text}"
  return status

def misuse (name text : String) (status : Nat) : Job Nat := do
  Job.complain s!"{name}: {text}"
  Job.complain s!"Try '{name} --help' for more information."
  return status

def withSwitches (plain valued : String) (run : String → Switches → Job Nat) : Tool :=
  fun name arguments =>
    match Switches.read plain.toList valued.toList (arguments.length + 1) arguments with
    | .error text => misuse name text 1
    | .ok switches => run name switches

def print (name : String) (bytes : List UInt8) : Job Nat := do
  if ← Job.write 1 bytes then return 0
  else fail name "write error: Bad file descriptor" 1

def printText (name text : String) : Job Nat := print name (Shell.Format.bytesOf text)

def openToRead (path : String) : Job (Except Disk.Cause Channel) := do
  let process ← Job.process
  match (← get).commons.disk.find process.here path with
  | .error cause => return .error cause
  | .ok (_, .file bytes _) => return .ok (← Job.source bytes)
  | .ok (_, .device "zero") => return .ok .zeros
  | .ok (_, .device "stdin") => return .ok ((process.channel? 0).getD .nothing)
  | .ok (_, .directory _) => return .error .isDirectory
  | .ok _ => return .ok .nothing

/-- Open a path for writing; what is there is kept if `append` says so. -/
def openToWrite (append : Bool) (path : String) : Job (Except Disk.Cause Channel) := do
  let process ← Job.process
  let disk := (← get).commons.disk
  match disk.locate true process.here path with
  | .error cause => return .error cause
  | .ok (place, none) =>
    if path.endsWith "/" then return .error .isDirectory
    Job.alterCommons fun m => { m with disk := disk.put place (.file [] (process.modeFor 0o666)) }
    return .ok (.file place)
  | .ok (place, some (.file _ mode)) =>
    if !append then Job.alterCommons fun m => { m with disk := disk.put place (.file [] mode) }
    return .ok (.file place)
  | .ok (_, some (.device "stdout")) => return .ok ((process.channel? 1).getD .nothing)
  | .ok (_, some (.device "stderr")) => return .ok ((process.channel? 2).getD .nothing)
  | .ok (_, some (.device _)) => return .ok .nothing
  | .ok (_, some (.directory _)) => return .error .isDirectory
  | .ok (_, some (.link _)) => return .error .linkLoop
  | .ok (_, some (.program _)) => return .error .busy

/-- Run a job on a file as its input; a single dash is the input that there is. What cannot be
opened is complained of in the words of `refusal`. -/
def onFile (refusal : Disk.Cause → String) (name path : String) (job : Job Nat) : Job Nat := do
  if path == "-" then job
  else
    match ← openToRead path with
    | .error cause => fail name (refusal cause) 1
    | .ok channel =>
      let process ← Job.process
      Job.withChannels ((0, channel) :: process.channels.filter (·.1 != 0)) job

/-- Run a job on each of some files, or on the input that there is if there are none. The answer is
the greatest status. -/
def onFiles (paths : List String) (job : String → Job Nat) : Job Nat :=
  (if paths.isEmpty then ["-"] else paths).foldlM (fun status path => do
    return max status (← job path)) 0

end Tool

end Rollout.Machine
