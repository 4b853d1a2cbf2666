import Rollout.Log.Names
import Rollout.Log.Opening
import Rollout.Log.Signature
import Rollout.Text.Capital

/-!
The making of handlers, layouts and filters from arguments.

Whatever is wrong with the arguments is found in a fixed order: first those that fit no parameter,
then what the thing itself does not take.
-/

set_option autoImplicit false
set_option relaxedAutoImplicit false

namespace Rollout.Log

/-! ### Signatures -/

/-- The parameters of handlers of a kind: those that have to be given, and the others. -/
def HandlerKind.parameters : HandlerKind → List String × List String
  | .bare | .null | .complaint => ([], ["level"])
  | .stream => ([], ["stream"])
  | .file | .watchedFile => (["filename"], ["mode", "encoding", "delay", "errors"])
  | .rotatingFile =>
    (["filename"], ["mode", "maxBytes", "backupCount", "encoding", "delay", "errors"])
  | .timedFile =>
    (["filename"],
      ["when", "interval", "backupCount", "encoding", "delay", "utc", "atTime", "errors"])
  | .buffer => (["capacity"], [])
  | .memory => (["capacity"], ["flushLevel", "target", "flushOnClose"])
  | .socket | .datagram => (["host", "port"], [])
  | .systemLog => ([], ["address", "facility", "socktype"])
  | .mail =>
    (["mailhost", "fromaddr", "toaddrs", "subject"], ["credentials", "secure", "timeout"])
  | .web => (["host", "url"], ["method", "secure", "credentials", "context"])
  | .queue => (["queue"], [])

def HandlerKind.fullName (kind : HandlerKind) : String :=
  (if kind.isSimple || kind == .complaint then Names.home else Names.handlersHome) ++
    "." ++ kind.name

def takerOf (name : String) : String := name ++ ".__init__()"

def Maker.fullName : Maker → String
  | .handler kind => kind.fullName
  | .layout => "logging.Formatter"
  | .filter => "logging.Filter"
  | .tuple => "tuple"
  | .list => "list"
  | .set => "set"
  | .map => "dict"
  | .text => "str"
  | .whole => "int"
  | .truth => "bool"

/-- The name of a thing that can be called, without the module that it is from. -/
def Maker.ownName : Maker → String
  | .handler kind => kind.name
  | .layout => "Formatter"
  | .filter => "Filter"
  | maker => maker.fullName

def Maker.signature (maker : Maker) : Signature :=
  let callee := maker.fullName ++ "()"
  match maker with
  | .handler .null => ⟨callee, takerOf "Handler", [], ["level"], []⟩
  | .handler kind =>
    let (needed, others) := kind.parameters
    ⟨callee, takerOf kind.name, needed, others, []⟩
  | .layout =>
    ⟨callee, takerOf "Formatter", [], ["fmt", "datefmt", "style", "validate"], ["defaults"]⟩
  | .filter => ⟨callee, takerOf "Filter", [], ["name"], []⟩
  | _ => ⟨callee, callee, [], ["object"], []⟩

namespace Making

open Setup (need misuse refuse ofMisuse)

/-! ### Layouts and filters -/

def style (mark : Thing) : Setup Style := do
  ofMisuse mark.checkKey
  need (.refused .unknownStyle) (mark.text?.bind Style.ofMark?)

def notLayout (style : Style) (thing : Thing) : Misuse :=
  match style, thing.bytes? with
  | .brace, _ => .notTemplate thing.kind
  | _, some _ => .bytesLayout
  | _, none => .notLayout thing.kind

/-- The spare fields that a thing gives, where it is a mapping. -/
def spare? (thing : Thing) : Option (List (String × Value)) :=
  if !thing.isGiven then some []
  else thing.entries?.map (·.filterMap fun entry => entry.1.text?.map (·, entry.2.toValue))

def layout (given : Entries Thing) : Setup Thing := do
  let style ← style (givenOr given "style" (.text Style.percent.mark))
  let template := givenOr given "fmt" .nothing
  let checks := (givenOr given "validate" (.value (.bool true))).isGiven
  let spare? := spare? (givenOr given "defaults" .nothing)
  let made (text? : Option String) : Thing :=
    .layout ⟨style, if spare?.isSome then text? else none, spare?.getD []⟩
  if !template.isGiven then return made (some style.usual)
  match template.text? with
  | none => if checks then misuse (notLayout style template) else return made none
  | some text =>
    if checks then
      match Layout.check style text with
      | .error fault => refuse (.badLayout fault.message)
      | .ok () => pure ()
    return made (some text)

def filter (given : Entries Thing) : Setup Thing := do
  let name := givenOr given "name" (.text "")
  let members? := if name.kind == "_io.StringIO" then none else name.members?
  match name.text?, members? with
  | some name, _ => return .filter (.below name)
  | none, some [] => return .filter (.below "")
  | none, some _ => return .filter (.unusable name.kind)
  | none, none => misuse (.noLength name.kind)

/-! ### Handlers -/

/-- How the arguments of a handler of files tell it to open one; `mode` stands where they do not
say how. -/
def opening (given : Entries Thing) (mode : Thing) : Setup Opening := do
  let text ← ofMisuse (Opening.pathText (givenOr given "filename" .nothing))
  let isOfBytes ← ofMisuse (Opening.isOfBytes mode)
  let encoding := givenOr given "encoding" .nothing
  let encoding :=
    if !isOfBytes && encoding.sameKey .nothing then .text Opening.usualEncoding else encoding
  return ⟨Opening.fromTop (← get).disk.here text, mode, encoding, givenOr given "errors" .nothing⟩

def adding : Thing := .text "a"

/-- Whether the arguments tell to open the file only for the first record. -/
def waits (given : Entries Thing) : Bool := (givenOr given "delay" (.value (.bool false))).isGiven

def fileWork (given : Entries Thing) (mode : Thing) : Setup Work := do
  (← opening given mode).work (waits given)

def rotatingWork (given : Entries Thing) : Setup Work := do
  let mode := givenOr given "mode" adding
  let limit := givenOr given "maxBytes" (.whole 0)
  let isLimited ← ofMisuse (Thing.orderIn ">" Thing.orderDepth limit (.whole 0))
  let mode := if isLimited == some .gt then adding else mode
  let _ ← ofMisuse (Opening.isOfBytes mode)
  fileWork given mode

def capitals (thing : Thing) : Setup String :=
  match thing.text? with
  | some text => return Text.upper text
  | none => Setup.fail (.noPart s!"'{thing.kind}' object" "upper")

def checkRollover (when : String) : Setup Unit :=
  match when.toList with
  | ['S'] | ['M'] | ['H'] | ['D'] => pure ()
  | ['W', day] =>
    if '0' ≤ day && day ≤ '6' then pure () else refuse (.badRolloverDay when)
  | 'W' :: _ => refuse (.noRolloverDay when)
  | _ => if when == "MIDNIGHT" then pure () else refuse (.badRollover when)

def timedWork (given : Entries Thing) : Setup Work := do
  let work ← fileWork given adding
  checkRollover (← capitals (givenOr given "when" (.text "h")))
  let interval := givenOr given "interval" (.whole 1)
  if interval.isNumber then return work
  else misuse (if ["str", "list", "tuple", "bytes"].contains interval.kind then
      .operands "+" "int" interval.kind
    else .operands "*" "int" interval.kind)

def targetOf (thing : Thing) : Target :=
  match thing with
  | .handler number => .handler number
  | thing => if thing.isGiven then .unusable thing.kind else .nowhere

def checkPair (thing : Thing) : Setup Unit :=
  match thing.members? with
  | none => misuse (.notUnpackable thing.kind)
  | some items =>
    if items.length < 2 then refuse (.tooFewParts 2 items.length)
    else if items.length > 2 then refuse (.tooManyParts 2)
    else pure ()

def checkRow (thing : Thing) : Setup Unit :=
  if thing.rowKind?.isSome then checkPair thing else pure ()

def checkWeb (given : Entries Thing) : Setup Unit := do
  let method ← capitals (givenOr given "method" (.text "GET"))
  if method != "GET" && method != "POST" then refuse .badMethod
  let context := givenOr given "context" .nothing
  if !(givenOr given "secure" .nothing).isGiven && !context.sameKey .nothing then
    refuse .idleContext

/-- The stream that a thing stands for; nothing can be written to what is none. -/
def streamWork (thing : Thing) : Work :=
  match thing with
  | .value .null => .write .err
  | .stream sink => .write sink
  | _ => .pass

def work (kind : HandlerKind) (given : Entries Thing) : Setup Work :=
  match kind with
  | .bare => return .bare
  | .null | .socket | .datagram | .queue => return .pass
  | .complaint => return .write .err
  | .stream => return streamWork (givenOr given "stream" .nothing)
  | .file => fileWork given (givenOr given "mode" adding)
  | .watchedFile => fileWork given (givenOr given "mode" adding)
  | .rotatingFile => rotatingWork given
  | .timedFile => timedWork given
  | .buffer => return .hold ⟨givenOr given "capacity" .nothing, none, .nowhere, []⟩
  | .memory =>
    return .hold ⟨givenOr given "capacity" .nothing,
      some (givenOr given "flushLevel" (.whole Level.error.weight)),
      targetOf (givenOr given "target" .nothing), []⟩
  | .systemLog => do
    let address := givenOr given "address" (.text "localhost")
    if address.text?.isNone then checkPair address
    return .pass
  | .mail => do
    checkRow (givenOr given "mailhost" .nothing)
    checkRow (givenOr given "credentials" .nothing)
    return .pass
  | .web => do
    checkWeb given
    return .pass

def handler (kind : HandlerKind) (given : Entries Thing) : Setup Thing := do
  let weight ← weightOf (givenOr given "level" (.whole 0))
  let work ← work kind given
  Setup.addHandler { Handler.plain work with weight := .whole weight }

end Making

end Rollout.Log
