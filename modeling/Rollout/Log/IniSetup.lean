import Rollout.Ini
import Rollout.Log.Expression.Meaning
import Rollout.Log.Expression.Reader
import Rollout.Text.Pieces

/-!
Loggers as an INI document describes them.

The sections `formatters`, `handlers` and `loggers` list the names of the parts, and each part has a
section of its own. What handlers are made of stands there as expressions. The root is set first,
then the loggers in their order.
-/

set_option autoImplicit false
set_option relaxedAutoImplicit false

namespace Rollout.Log

namespace IniSetup

open Setup (fail refuse need alter alterHandler modifyConsole ofFault)

/-! ### Options -/

def missing (name : String) : SetupFault := .missing (Text.quoted name)

def needSection (ini : Ini) (name : String) : Setup Unit :=
  need (missing name) (if ini.hasSection name then some () else none)

def value? (ini : Ini) (name option : String) : Setup (Option String) :=
  ofFault ((ini.value? name option).mapError .ini)

def value (ini : Ini) (name option : String) : Setup String := do
  needSection ini name
  need (missing option) (← value? ini name option)

def valueOr (ini : Ini) (name option other : String) : Setup String :=
  return (← value? ini name option).getD other

/-- The names between the commas of a text; blanks around them do not count. -/
def pieces (list : String) : List String :=
  (Text.piecesOf ',' list).map fun name => String.ofList (Text.trim name.toList)

def names (list : String) : List String := if list.isEmpty then [] else pieces list

def evaluate (text : String) : Setup Thing := do
  if text.contains '\x00' then refuse .nullInExpression
  let cs := text.toList.dropWhile fun c => c == ' ' || c == '\t'
  match Expression.read cs with
  | .ok e => e.meaning
  | .error fault => fail (.expression fault)

def weight (text : String) : Setup Int := weightOf (.text text)

def makeAll {α : Type} (make : String → Setup α) (names : List String) : Setup (Entries α) :=
  names.foldlM (fun made name => return made.put name (← make name)) []

/-! ### Layouts and handlers -/

def textOrNothing (text : Option String) : Thing := (text.map Thing.text).getD .nothing

def layout (ini : Ini) (name : String) : Setup Thing := do
  let place := "formatter_" ++ name
  let text := textOrNothing (ini.raw? place "format")
  let time := textOrNothing (ini.raw? place "datefmt")
  let style := (ini.raw? place "style").getD Style.percent.mark
  needSection ini place
  let className ← valueOr ini place "class" ""
  let factory ←
    if className.isEmpty then pure (.maker .layout) else ofFault (Names.resolve className)
  Calling.call factory [text, time, .text style] []

/-- What makes a handler: an expression, or else a dotted name. -/
def factory (className : String) : Setup Thing :=
  tryCatch (evaluate className) fun
    | .setup (.noPart _ _) | .setup (.noName _) => ofFault (Names.resolve className)
    | fault => throw fault

def giveLayout (layouts : Entries Thing) (number : Nat) (name : String) : Setup Unit := do
  match ← need (missing name) (layouts.get? name) with
  | .layout layout => alterHandler number ({ · with layout := layout })
  | _ => alterHandler number ({ · with layout := ⟨.percent, none, []⟩ })

/-- The handler of a name, and the name of the one that it hands records on to. -/
def handler (ini : Ini) (layouts : Entries Thing) (name : String) :
    Setup (Nat × Option String) := do
  let place := "handler_" ++ name
  let className ← value ini place "class"
  let layoutName ← valueOr ini place "formatter" ""
  let factory ← factory className
  let row ← evaluate (← valueOr ini place "args" "()")
  let named ← evaluate (← valueOr ini place "kwargs" "\x7b\x7d")
  let thing ← Calling.callWith factory row named
  let level? ← value? ini place "level"
  let told? : Option String :=
    if level?.isSome then some "setLevel"
    else if layoutName.isEmpty then none
    else some "setFormatter"
  let number ← Setup.numberOf thing told?
  if let some text := level? then
    let weight ← weight text
    alterHandler number ({ · with weight := .whole weight })
  if !layoutName.isEmpty then giveLayout layouts number layoutName
  match factory with
  | .maker (.handler .memory) =>
    let target ← valueOr ini place "target" ""
    return (number, if target.isEmpty then none else some target)
  | _ => return (number, none)

def link (handlers : Entries (Nat × Option String)) : Setup Unit := do
  for (number, target?) in handlers.map (·.2) do
    if let some target := target? then
      let (other, _) ← need (missing target) (handlers.get? target)
      alterHandler number fun handler =>
        match handler.work with
        | .hold store => { handler with work := .hold { store with target := .handler other } }
        | _ => handler

/-! ### Loggers -/

/-- The logger of a name; some names stand for the root. -/
def loggerNamed (name : String) : Option String :=
  if name.isEmpty || name == "root" then none else some name

def setLogger (ini : Ini) (handlers : Entries Nat) (place : String) (target : Option String)
    (passesUp : Bool) : Setup Unit := do
  if let some text ← value? ini place "level" then
    let weight ← weight text
    alter target ({ · with weight := weight })
  alter target ({ · with handlers := [], passesUp := passesUp, silent := false })
  for name in names (← value ini place "handlers") do
    let handler ← need (missing name) (handlers.get? name)
    alter target (·.addHandler handler)

/-- Set the logger that a section describes; the answer is its name. -/
def describedLogger (ini : Ini) (handlers : Entries Nat) (name : String) :
    Setup (Option String) := do
  let place := "logger_" ++ name
  let target := loggerNamed (← value ini place "qualname")
  let passesUp ←
    match ← value? ini place "propagate" with
    | none => pure (.whole 1)
    | some text => Collection.wholeOf (.text text)
  alter target id
  setLogger ini handlers place target passesUp.isGiven
  return target

end IniSetup

def setupIni (ini : Ini) : Setup Unit := do
  let listed (name : String) : Setup String := IniSetup.value ini name "keys"
  let layouts ← IniSetup.makeAll (IniSetup.layout ini) (IniSetup.names (← listed "formatters"))
  let handlers ←
    IniSetup.makeAll (IniSetup.handler ini layouts) (IniSetup.names (← listed "handlers"))
  IniSetup.link handlers
  let handlers := handlers.map fun (name, number, _) => (name, number)
  let places := IniSetup.pieces (← listed "loggers")
  if !places.contains "root" then Setup.refuse .rootNotListed
  IniSetup.needSection ini "logger_root"
  IniSetup.setLogger ini handlers "logger_root" none true
  let named ← (places.erase "root").mapM (IniSetup.describedLogger ini handlers)
  Setup.modifyConsole (·.settleOthers (named.filterMap id) false)

end Rollout.Log
