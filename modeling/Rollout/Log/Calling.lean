import Rollout.Log.Collection
import Rollout.Log.Making

/-!
Calls of things.

What makes parts, collections and scalars can be called, and so can functions. The arguments stand
in a row or have names.
-/

set_option autoImplicit false
set_option relaxedAutoImplicit false

namespace Rollout.Log.Calling

open Setup (misuse ofMisuse)

def make (maker : Maker) (row : List Thing) (named : List (Thing × Thing)) : Setup Thing := do
  let signature := maker.signature
  if [Maker.tuple, .list, .set, .map, .truth].contains maker && row.length > 1 then
    misuse (.mismatch maker.fullName "" (.aboveOne row.length))
  let bound (named : List (Thing × Thing)) : Setup (Entries Thing) :=
    ofMisuse ((signature.bind row named).mapError signature.fault)
  match maker with
  | .handler kind => Making.handler kind (← bound named)
  | .layout => Making.layout (← bound named)
  | .filter => Making.filter (← bound named)
  | .map => do
    let given ← bound []
    let entries ← ((given.get? "object").map Collection.entriesOf).getD (pure [])
    Collection.mapOf (entries ++ named)
  | _ => do Collection.ofMaker maker ((← bound named).get? "object")

/-- A path with a further one behind it, which counts alone where it starts at the top. -/
def joinPath (path further : String) : String :=
  if further.startsWith "/" then further
  else if path.isEmpty || path.endsWith "/" then path ++ further
  else path ++ "/" ++ further

/-- Call a function; of most nothing is known but that they answer. -/
def callFunction (name : String) (row : List Thing) : Setup Thing := do
  let site ← get
  match name, row.map Thing.text? with
  | "os.getenv", some name :: _ =>
    match site.environment.get? name with
    | some text => return .text text
    | none => return (row[1]?).getD .nothing
  | "print", _ => return .nothing
  | "posix.getcwd", [] => return .text ("/" ++ "/".intercalate site.disk.here)
  | "posixpath.join", some path :: rest =>
    match rest.mapM id with
    | some rest => return .text (rest.foldl joinPath path)
    | none => return .other "object"
  | _, _ => return .other "object"

def call (callee : Thing) (row : List Thing) (named : List (Thing × Thing)) : Setup Thing :=
  match callee with
  | .maker maker => make maker row named
  | .function name => callFunction name row
  | .other "type" => return .other "object"
  | thing => misuse (.notCallable thing.kind)

def calleeName (callee : Thing) : String :=
  match callee with
  | .maker maker => maker.fullName ++ "()"
  | .function name => name ++ "()"
  | thing => thing.toValue.shown

def callWith (callee row named : Thing) : Setup Thing := do
  let signature : Signature := ⟨calleeName callee, "", [], [], []⟩
  let (row, named) ← ofMisuse (signature.spread row named)
  call callee row named

end Rollout.Log.Calling
