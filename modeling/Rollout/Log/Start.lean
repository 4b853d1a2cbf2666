import Rollout.Log.IniSetup
import Rollout.Log.ValueSetup
import Rollout.Text.Capital
import Rollout.Yaml.Document

/-!
How the program sets its loggers up.

The settings file is the one that the environment names, or else the first of the usual ones that is
there. If it cannot be used, that is told and the loggers are set up in the usual way, with the
weight that the environment names.
-/

set_option autoImplicit false
set_option relaxedAutoImplicit false

namespace Rollout.Log

def settingsFiles (environment : Environment) : List Path :=
  ((environment.given? "LOGGING_CONFIG").map Path.ofString).toList ++
    ["logging.yaml", "logging.yml", "logging.ini"].map Path.ofString

def firstPresent (disk : Disk) : List Path → Except Disk.Fault (Option Path)
  | [] => .ok none
  | path :: rest => do if ← disk.hasEntry path then return some path else firstPresent disk rest

def isIniFile (path : Path) : Bool :=
  [".ini", ".cfg"].contains (String.ofList (path.suffix.toList.map Char.toLower))

def textOf (bytes : List UInt8) : Except Fault (List Char) :=
  match Text.Utf8.decodeFile bytes with
  | (_, some fault) => .error (.undecodable fault)
  | (text, none) => .ok (Text.unifyLineEnds text)

/-- The INI document of a file; an empty one where the file cannot be read. -/
def readIni (disk : Disk) (path : Path) : Except Fault Ini := do
  match disk.read path with
  | .error _ => return []
  | .ok bytes =>
    let source := "PosixPath(" ++ Text.quoted path.toString ++ ")"
    (Ini.read source (← textOf bytes)).mapError fun fault => .setup (.ini fault)

def readValue (disk : Disk) (path : Path) : Except Fault Value := do
  let bytes ← (disk.read path).mapError .disk
  (Yaml.readFile bytes).mapError fun
    | .malformed => .setup (.malformed Yaml.malformedText)
    | .value fault => .value fault
    | .undecodable fault => .undecodable fault

def setupFile (disk : Disk) (path : Path) : Setup Unit := do
  if isIniFile path then setupIni (← readIni disk path) else setupValue (← readValue disk path)

def words? : Fault → Option String
  | .disk fault => some fault.message
  | .undecodable fault => some fault.message
  | .unknownLevel name => some (Fault.unknownLevel name).message
  | .value fault =>
    match fault with
    | .overflow | .codeTooLarge | .emptyNumeral | .notMoment | .endless | .tooDeepToShow => none
    | .notTruth word => some (Text.quoted word)
    | _ => some fault.message
  | .setup fault => if fault.isPassedOver then some fault.message else none
  | _ => none

/-- The weight of the root where no settings file is used, by its name. -/
def usualLevel (environment : Environment) : String :=
  Text.upper ((environment.get? "LOG_LEVEL").getD "INFO")

/-- What the setting up of the loggers changes: the loggers, and the disk with their files. -/
structure Ground where
  console : Console
  disk : Disk

def Ground.start (disk : Disk) : Ground := ⟨.start, disk⟩

def startUsual (environment : Environment) : Act Ground Unit := do
  let ground ← Act.get
  let console ← Act.ofExcept (ground.console.basic (usualLevel environment))
  Act.modify ({ · with console := console })

def start (environment : Environment) : Act Ground Unit := do
  let ground ← Act.get
  let disk := ground.disk
  match ← Act.ofExcept ((firstPresent disk (settingsFiles environment)).mapError .disk) with
  | none => startUsual environment
  | some path =>
    let (answer, site) := (setupFile disk path).run.run ⟨ground.console, disk, environment, []⟩
    Act.modify fun _ => ⟨site.console, site.disk⟩
    match answer with
    | .ok () => pure ()
    | .error fault =>
      match words? fault with
      | none => Act.fail fault
      | some words =>
        Act.complain
          s!"Failed to load logging config {path}: {words}. Falling back to basic logging."
        startUsual environment

end Rollout.Log
