import Rollout.Log.Calling
import Rollout.Log.Reference

/-!
Parts of the settings of loggers as mappings describe them.

A mapping describes a part by its usual members, or it names what makes the part, together with the
arguments for it. The members of a mapping may refer to other things; the parts that are made
already stand in the settings under their names.
-/

set_option autoImplicit false
set_option relaxedAutoImplicit false

namespace Rollout.Log

abbrev Description := List (Thing × Thing)

namespace Description

open Setup (fail misuse refuse need ofFault ofMisuse meant alterHandler)

def of (thing : Thing) : Setup Description :=
  need (.noPart s!"'{thing.kind}' object" "get") thing.entries?

def member? (description : Description) (name : String) : Option Thing :=
  Thing.under? description (.text name)

def read (description : Description) (name : String) (other : Thing) : Setup Thing :=
  meant ((description.member? name).getD other)

def without (description : Description) (names : List String) : Description :=
  description.filter fun entry => !names.any fun name => entry.1.sameKey (.text name)

def factoryName : String := "()"

def propertiesName : String := "."

def isArgumentName (text : String) : Bool :=
  let isStart (c : Char) : Bool := c.isAlpha || c == '_'
  match text.toList with
  | [] => false
  | c :: rest => isStart c && rest.all fun c => isStart c || c.isDigit

def arguments (description : Description) : Setup (List (Thing × Thing)) :=
  (description.without [propertiesName]).mapM fun (key, thing) => do
    if key.text?.any isArgumentName then return (key, ← meant thing) else misuse .notName

def isCallable : Thing → Bool
  | .maker _ | .function _ | .other "type" => true
  | _ => false

/-- What makes the part: a thing that can be called, or the name of one. -/
def factory (description : Description) : Setup Thing := do
  let factory ← description.read factoryName .nothing
  if isCallable factory then return factory else Reference.resolve factory

def properties (description : Description) : Setup Description := do
  let properties ← description.read propertiesName .nothing
  if properties.isGiven then of properties else return []

def custom (description : Description) : Setup Thing := do
  let factory ← description.factory
  let made ← Calling.call factory [] (← (description.without [factoryName]).arguments)
  let properties ← description.properties
  if properties.all (·.1.text?.isSome) then return made else misuse .notName

/-- Whether a fault is that an argument of a name is not taken. -/
def isAbout (name : String) : Fault → Bool
  | .setup (.misuse (.mismatch _ _ (.unknownName other))) => other == name
  | _ => false

/-- The layout that is described. Its text may have either of two names for a factory. -/
def layout (thing : Thing) : Setup Thing := do
  let description ← of thing
  if (description.member? factoryName).isSome then
    tryCatch description.custom fun fault => do
      if !isAbout "format" fault then throw fault
      let text := (description.member? "format").getD .nothing
      custom (description.without ["format", "fmt"] ++ [(.text "fmt", text)])
  else
    let text ← description.read "format" .nothing
    let time ← description.read "datefmt" .nothing
    let style ← description.read "style" (.text Style.percent.mark)
    let name ← description.read "class" .nothing
    let factory ← if name.isGiven then Reference.resolve name else pure (.maker .layout)
    match description.member? "validate" with
    | none => Calling.call factory [text, time, style] []
    | some checks => Calling.call factory [text, time, style, ← meant checks] []

def filter (thing : Thing) : Setup Thing := do
  let description ← of thing
  if (description.member? factoryName).isSome then description.custom
  else Calling.call (.maker .filter) [← description.read "name" (.text "")] []

def partIn (name : String) (key : Thing) : Setup Thing := do
  let parts ← Description.read (← get).settings name .nothing
  meant (← ofFault (parts.item key))

def filterOf (key : Thing) : Setup Filter := do
  let filter ← match key with
    | .filter _ => pure key
    | key => partIn "filters" key
  match filter with
  | .filter filter => return filter
  | part => return .unusable part.kind

def handlerOf (key : Thing) : Setup Nat := do
  match ← partIn "handlers" key with
  | .handler number => return number
  | part => fail (.noPart s!"'{part.kind}' object" "handle")

/-- Do something with each member of what is listed, if anything is. -/
def forListed (listed : Thing) (act : Thing → Setup Unit) : Setup Unit := do
  if listed.isGiven then
    for key in ← Collection.members listed do
      act key

/-! ### Handlers -/

/-- The handler that records are handed on to; it has to be there. -/
def target (description : Description) : Setup Description := do
  match ← partIn "handlers" (← description.read "target" .nothing) with
  | .handler number =>
    return description.map fun entry =>
      if entry.1.sameKey (.text "target") then (entry.1, .handler number) else entry
  | _ => refuse .targetMissing

def rowOf (description : Description) (name : String) : Setup Description :=
  description.mapM fun (key, thing) => do
    if !key.sameKey (.text name) then return (key, thing)
    let thing ← meant thing
    if thing.kind == "list" then return (key, .tuple (thing.members?.getD []))
    else return (key, thing)

/-- The arguments of a handler of a kind, where some of them need more than to be looked up. -/
def settled (description : Description) : HandlerKind → Setup Description
  | .memory =>
    if (description.member? "target").isSome then description.target else pure description
  | .mail => description.rowOf "mailhost"
  | .systemLog => description.rowOf "address"
  | _ => pure description

/-- Make the handler of a description without its usual members. -/
def madeHandler (description : Description) : Setup Thing := do
  if (description.member? factoryName).isSome then
    let factory ← description.factory
    Calling.call factory [] (← (description.without [factoryName]).arguments)
  else
    let factory ← Reference.resolve (← description.read "class" .nothing)
    let description := description.without ["class"]
    match factory with
    | .maker (.handler kind) =>
      Calling.call factory [] (← (← description.settled kind).arguments)
    | factory => Calling.call factory [] (← description.arguments)

def givenLayout (thing : Thing) : Layout :=
  match thing with
  | .layout layout => layout
  | thing => if thing.isGiven then ⟨.percent, none, []⟩ else .message

def setProperty (name : String) (thing : Thing) (handler : Handler) : Handler :=
  match name, handler.work with
  | "level", _ => { handler with weight := thing }
  | "formatter", _ => { handler with layout := givenLayout thing }
  | "terminator", _ => { handler with ending? := thing.text? }
  | "stream", .write _ => { handler with work := .pass }
  | "capacity", .hold store => { handler with work := .hold { store with capacity := thing } }
  | "flushLevel", .hold store =>
    { handler with work := .hold { store with weight? := store.weight?.map fun _ => thing } }
  | "target", .hold store =>
    { handler with work := .hold { store with target := Making.targetOf thing } }
  | _, _ => handler

/-- The members of a handler's description that are not for what makes the handler. -/
def handlerMembers : List String := ["formatter", "level", "filters"]

def layoutOf (description : Description) : Setup (Option Layout) := do
  let name ← description.read "formatter" .nothing
  if !name.isGiven then return none
  return some (givenLayout (← partIn "formatters" name))

def handler (thing : Thing) : Setup Thing := do
  let description ← of thing
  let layout? ← description.layoutOf
  let level ← description.read "level" .nothing
  let listed ← description.read "filters" .nothing
  let told? : Option String :=
    if layout?.isSome then some "setFormatter"
    else if !level.sameKey .nothing then some "setLevel"
    else if listed.isGiven then some "addFilter"
    else none
  let made ← (description.without handlerMembers).madeHandler
  let number ← Setup.numberOf made told?
  if let some layout := layout? then alterHandler number ({ · with layout := layout })
  if !level.sameKey .nothing then
    let weight ← weightOf level
    alterHandler number ({ · with weight := .whole weight })
  forListed listed fun key => do
    let filter ← filterOf key
    alterHandler number fun handler => { handler with filters := handler.filters ++ [filter] }
  for (key, thing) in ← description.properties do
    let some name := key.text? | misuse .notName
    alterHandler number (setProperty name thing)
  return .handler number

end Description

end Rollout.Log
