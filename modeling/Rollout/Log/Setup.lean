import Rollout.Disk
import Rollout.Environment
import Rollout.Log.Console
import Rollout.Log.Thing.Item

/-!
The setting up of loggers.

It changes the loggers and the disk, on which files of handlers are made, and it may fail on its
way; what it changed before stays changed.
-/

set_option autoImplicit false
set_option relaxedAutoImplicit false

namespace Rollout.Log

structure Site where
  console : Console
  disk : Disk
  environment : Environment
  settings : List (Thing × Thing)

abbrev Setup := ExceptT Fault (StateM Site)

namespace Setup

variable {α : Type}

def fail (fault : SetupFault) : Setup α := throw (.setup fault)

def misuse (misuse : Misuse) : Setup α := fail (.misuse misuse)

def refuse (refusal : Refusal) : Setup α := fail (.refused refusal)

/-- The answer that there should be; a fault where there is none. -/
def need (fault : SetupFault) : Option α → Setup α
  | some a => pure a
  | none => fail fault

def ofMisuse (answer : Except Misuse α) : Setup α :=
  match answer with
  | .ok a => pure a
  | .error m => misuse m

def ofFault (answer : Except SetupFault α) : Setup α :=
  match answer with
  | .ok a => pure a
  | .error fault => fail fault

def console : Setup Console := return (← get).console

def modifyConsole (f : Console → Console) : Setup Unit :=
  modify fun site => { site with console := f site.console }

def alter (name : Option String) (f : Logger → Logger) : Setup Unit :=
  modifyConsole (·.alter name f)

def addHandler (handler : Handler) : Setup Thing := do
  let (number, console) := (← console).add handler
  modifyConsole fun _ => console
  return .handler number

/-- The number of the handler that a thing is; some other things can stand in the place of one,
unless they are told what only handlers are told. -/
def numberOf (thing : Thing) (told? : Option String) : Setup Nat := do
  match thing with
  | .handler number => return number
  | .layout _ | .filter _ =>
    if let some name := told? then fail (.noPart s!"'{thing.kind}' object" name)
    let (number, console) := (← console).add (.plain (.foreign thing.kind))
    modifyConsole fun _ => console
    return number
  | _ => fail (.noPart s!"'{thing.kind}' object" "name")

def alterHandler (number : Nat) (f : Handler → Handler) : Setup Unit :=
  modifyConsole (·.alterHandler number f)

/-- Tell every fault of a change by one of its own; what it changed stays changed. -/
def telling (fault : SetupFault) (change : Setup α) : Setup α :=
  tryCatch change fun _ => fail fault

end Setup

/-- The weight that a thing stands for: a whole number, or the name of a weight. -/
def weightOf (thing : Thing) : Setup Int :=
  match thing.whole?, thing.text? with
  | some weight, _ => pure weight
  | none, some name =>
    match weight? name with
    | some weight => pure weight
    | none => throw (.unknownLevel name)
  | none, none => Setup.misuse (.notWeight thing.toValue.quote)

end Rollout.Log
