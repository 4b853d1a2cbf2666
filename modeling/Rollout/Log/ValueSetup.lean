import Rollout.Log.Description
import Rollout.Value.Writing

/-!
Loggers as a value describes them.

The value is a mapping with a version. Layouts, filters and handlers are made first, each in a
section of its own, where what is made takes the place of its description. Then the loggers are set,
at last the root. A value may also change weights only. Whatever is wrong inside a part is told as a
fault of that part.
-/

set_option autoImplicit false
set_option relaxedAutoImplicit false

namespace Rollout.Log

namespace ValueSetup

open Setup (fail misuse refuse meant modifyConsole alter telling)

def settings : Setup Description := return (← get).settings

/-- Take a member out of the settings; the answer is what it means, or else a thing. -/
def take (name : String) (other : Thing) : Setup Thing := do
  let thing ← (← settings).read name other
  modify fun site => { site with settings := Description.without site.settings [name] }
  return thing

def putMember (key thing : Thing) : Setup Unit :=
  modify fun site => { site with settings := Thing.put site.settings key thing }

/-- The section of a name, an empty one where there is none; from then on it stands in the settings
itself. -/
def sectionOf (name : String) : Setup Thing := do
  let thing ← (← settings).read name (.map [])
  putMember (.text name) thing
  return thing

def putPart (name : String) (key part : Thing) : Setup Unit := do
  match ((← settings).member? name).bind Thing.entries? with
  | none => pure ()
  | some entries => putMember (.text name) (.map (Thing.put entries key part))

/-- The quoted text of the name of a part; a name that is a pair cannot be told. -/
def quoted (key : Thing) : Setup String := do
  if key.kind == "tuple" then misuse .namesLeft
  if let some fault := key.toValue.writingFault? then throw (.value fault)
  return key.toValue.quote

def within {α : Type} (part : Part) (key : Thing) (change : Setup α) : Setup α :=
  tryCatch change fun _ => do refuse (.badPart part (← quoted key))

def makePart (name : String) (make : Thing → Setup Thing) (key : Thing) : Setup Unit := do
  let part ← make (← Description.partIn name key)
  putPart name key part

def makeAll (name : String) (part : Part) (make : Thing → Setup Thing) : Setup Unit := do
  for key in ← Collection.members (← sectionOf name) do
    within part key (makePart name make key)

/-- Make all handlers in the order of their names. Those that hand records on to handlers that are
not there yet come last. -/
def makeHandlers : Setup Unit := do
  let keys ← Collection.members (← sectionOf "handlers")
  let mut late : List Thing := []
  for key in ← Setup.ofMisuse (Thing.sorted keys) do
    let isLate ← tryCatch (do makePart "handlers" Description.handler key; return false) fun
      | .setup (.refused .targetMissing) => return true
      | fault => within .handler key (throw fault)
    if isLate then late := late ++ [key]
  for key in late do
    within .handler key (makePart "handlers" Description.handler key)

/-- Set a logger as its description says, the root where no name is given. -/
def setLogger (weightsOnly : Bool) (name : Option String) (thing : Thing) :
    Setup Description := do
  alter name id
  let description ← Description.of thing
  let level ← description.read "level" .nothing
  if !level.sameKey .nothing then
    let weight ← weightOf level
    alter name ({ · with weight := weight })
  if !weightsOnly then
    alter name ({ · with handlers := [] })
    Description.forListed (← description.read "handlers" .nothing) fun key => do
      let number ← Description.handlerOf key
      alter name (·.addHandler number)
    Description.forListed (← description.read "filters" .nothing) fun key => do
      let filter ← Description.filterOf key
      alter name fun logger => { logger with filters := logger.filters ++ [filter] }
  return description

/-- The logger that a name stands for; some names stand for the root. -/
def loggerNamed (key : Thing) : Setup (Option String) :=
  match key.text? with
  | some name => return if name.isEmpty || name == "root" then none else some name
  | none => if key.isGiven then misuse .notName else return none

def setNamed (weightsOnly : Bool) (key : Thing) : Setup (Option String) := do
  let thing ← Description.partIn "loggers" key
  let name ← loggerNamed key
  let description ← setLogger weightsOnly name thing
  if name.isSome then alter name ({ · with silent := false })
  let propagate ← description.read "propagate" .nothing
  if name.isSome && !propagate.sameKey .nothing then
    alter name ({ · with passesUp := propagate.isGiven })
  return name

/-- Set the loggers of their section, one by one; the answer is the names of those below the
root. -/
def setLoggers (weightsOnly : Bool) : Setup (List String) := do
  let names ← (← Collection.members (← sectionOf "loggers")).mapM fun key =>
    within .logger key (setNamed weightsOnly key)
  return names.filterMap id

def setRoot (weightsOnly : Bool) : Setup Unit := do
  let thing ← (← settings).read "root" .nothing
  if thing.isGiven then
    let _ ← telling (.refused .badRoot) (setLogger weightsOnly none thing)

/-- Change weights only. There is no handler with a name that could be changed. -/
def adjust : Setup Unit := do
  match ← Collection.members (← sectionOf "handlers") with
  | key :: _ =>
    Collection.checkKey key
    refuse (.noHandler (← quoted key))
  | [] => pure ()
  let _ ← setLoggers true
  setRoot true

def replace : Setup Unit := do
  let silence ← take "disable_existing_loggers" (.value (.bool true))
  makeAll "formatters" .formatter Description.layout
  makeAll "filters" .filter Description.filter
  makeHandlers
  let named ← setLoggers false
  modifyConsole (·.settleOthers named silence.isGiven)
  setRoot false

def shown (thing : Thing) : String :=
  match thing with
  | .maker maker => s!"<class '{maker.fullName}'>"
  | thing => thing.toValue.shown

def checkVersion : Setup Unit := do
  let settings ← settings
  if (settings.member? "version").isNone then refuse .noVersion
  let version ← settings.read "version" .nothing
  if version.sameKey (.whole 1) then return ()
  if version.kind == "tuple" then misuse .namesLeft
  if let some fault := version.toValue.writingFault? then throw (.value fault)
  refuse (.unknownVersion (shown version))

end ValueSetup

def setupValue (v : Value) : Setup Unit := do
  let entries ← Collection.entriesOf (.value v)
  modify ({ · with settings := entries })
  ValueSetup.checkVersion
  if (← ValueSetup.take "incremental" (.value (.bool false))).isGiven then ValueSetup.adjust
  else ValueSetup.replace

end Rollout.Log
