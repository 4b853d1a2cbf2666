import Rollout.Log.Layout

/-!
The things that settings speak of.

Beside values there are the streams of the program, the makers of parts, and collections that hold
any of these. Every thing is of a kind, whose name is told where a thing of another kind is needed.
-/

set_option autoImplicit false
set_option relaxedAutoImplicit false

namespace Rollout.Log

inductive Sink
  | out
  | err
  | away
  deriving DecidableEq, Repr

/-- Handlers by what they do with records. -/
inductive HandlerKind
  | bare
  | null
  | stream
  | complaint
  | file
  | watchedFile
  | rotatingFile
  | timedFile
  | buffer
  | memory
  | socket
  | datagram
  | systemLog
  | mail
  | web
  | queue
  deriving DecidableEq, Repr

inductive Maker
  | handler (kind : HandlerKind)
  | layout
  | filter
  | tuple
  | list
  | set
  | map
  | text
  | whole
  | truth
  deriving DecidableEq, Repr

inductive Filter
  | below (name : String)
  | unusable (kind : String)
  deriving DecidableEq, Repr

inductive Thing
  | value (v : Value)
  | tuple (items : List Thing)
  | list (items : List Thing)
  | set (items : List Thing)
  | map (entries : List (Thing × Thing))
  | stream (sink : Sink)
  | handler (number : Nat)
  | layout (l : Layout)
  | filter (f : Filter)
  | maker (m : Maker)
  | module (name : String)
  | function (name : String)
  | other (kind : String)
  deriving Inhabited

namespace Thing

def nothing : Thing := .value .null

def text (s : String) : Thing := .value (.text s)

def whole (i : Int) : Thing := .value (.int i)

def kindOfValue : Value → String
  | .null => "NoneType"
  | .bool _ => "bool"
  | .int _ => "int"
  | .float _ => "float"
  | .text _ | .codes _ => "str"
  | .bytes _ => "bytes"
  | .date _ => "datetime.date"
  | .moment _ => "datetime.datetime"
  | .list _ => "list"
  | .pair _ _ => "tuple"
  | .set _ => "set"
  | .map _ => "dict"
  | .knot _ body => kindOfValue body
  | .again _ => "list"

def kind : Thing → String
  | .value v => kindOfValue v
  | .tuple _ => "tuple"
  | .list _ => "list"
  | .set _ => "set"
  | .map _ => "dict"
  | .stream _ => "_io.StringIO"
  | .handler _ => "Handler"
  | .layout _ => "Formatter"
  | .filter _ => "Filter"
  | .maker _ => "type"
  | .module _ => "module"
  | .function _ => "function"
  | .other kind => kind

/-- Whether a thing counts as given: null, false, zero and everything empty do not. -/
def isGiven : Thing → Bool
  | .value v => v.isGiven
  | .tuple items | .list items | .set items => !items.isEmpty
  | .map entries => !entries.isEmpty
  | _ => true

/-- The members of a value, if it has any: a mapping has its keys, a text its characters. -/
def membersOfValue? (v : Value) : Option (List Value) :=
  match v.opened with
  | .map entries => some (entries.map (·.1))
  | .list items | .set items => some items
  | .text s => some (s.toList.map fun c => .text (String.singleton c))
  | .codes ns => some (ns.map fun n => .codes [n])
  | .bytes bytes => some (bytes.map fun b => .int b.toNat)
  | .pair first second => some [first, second]
  | _ => none

def members? : Thing → Option (List Thing)
  | .value v => (membersOfValue? v).map (·.map Thing.value)
  | .tuple items | .list items | .set items => some items
  | .map entries => some (entries.map (·.1))
  | .stream _ => some []
  | _ => none

def entries? : Thing → Option (List (Thing × Thing))
  | .value v =>
    match v.opened with
    | .map entries => some (entries.map fun entry => (.value entry.1, .value entry.2))
    | _ => none
  | .map entries => some entries
  | _ => none

def text? : Thing → Option String
  | .value (.text s) => some s
  | .value (.codes ns) => some ns.text
  | _ => none

def whole? : Thing → Option Int
  | .value (.int i) => some i
  | .value (.bool b) => some (if b then 1 else 0)
  | _ => none

mutual

/-- The value that a thing is; things that are no values are null in it. -/
def toValue : Thing → Value
  | .value v => v
  | .list items => .list (toValues items)
  | .set items => .set (toValues items)
  | .tuple items =>
    match toValues items with
    | [first, second] => .pair first second
    | items => .list items
  | .map entries => .map (toEntries entries)
  | _ => .null

def toValues : List Thing → List Value
  | [] => []
  | thing :: things => toValue thing :: toValues things

def toEntry : Thing × Thing → Value × Value
  | (key, held) => (toValue key, toValue held)

def toEntries : List (Thing × Thing) → List (Value × Value)
  | [] => []
  | entry :: entries => toEntry entry :: toEntries entries

end

def sameKey (a b : Thing) : Bool :=
  match a, b with
  | .value x, .value y => x.sameKey y
  | .stream x, .stream y => x == y
  | .handler x, .handler y => x == y
  | .maker x, .maker y => x == y
  | .module x, .module y | .function x, .function y => x == y
  | _, _ => false

end Thing

end Rollout.Log
