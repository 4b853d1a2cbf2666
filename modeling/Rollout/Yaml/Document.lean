import Rollout.Text.Newline
import Rollout.Yaml.Node
import Rollout.Yaml.ScalarValue

/-!
From nodes to values.

Every node is made once, however often it is named. A collection is made empty and its members are
made later, in the order in which the collections were met; so of two faults the one that lies less
deep counts, and on one level the one that comes first. Merge keys are replaced by the entries of
the mappings they name, in front of the mapping's own entries. Only scalars are keys.

A file is read in blocks. What cannot be read in a block is met only where the tokens before it do
not stop the reading.
-/

set_option autoImplicit false
set_option relaxedAutoImplicit false

namespace Rollout.Yaml

namespace Graph

def entryCount (graph : Graph) : Nat :=
  graph.foldl (fun n node => match node.content with
    | .mapping entries => n + entries.length
    | _ => n) 0

/-- Replace the merge keys of a mapping by the entries that they stand for, and make its keys of
default values texts. A merge key is dropped before the mappings that it names are looked at, which
bounds the depth by the number of entries. -/
def flatten (room : Nat) (n : Nat) (graph : Graph) : Except Fault Graph :=
  match room with
  | 0 => .error .malformed
  | room + 1 =>
    let rec go (steps : Nat) (merged : List (Nat × Nat)) (graph : Graph) : Except Fault Graph :=
      let entries := (graph.entries? n).getD []
      match steps, entries.findIdx? fun entry => graph.kind entry.1 == .merge with
      | steps + 1, some i => do
        let graph := graph.setContent n (.mapping (entries.eraseIdx i))
        let target := (entries.getD i default).2
        match (graph.node target).content with
        | .mapping _ =>
          let graph ← flatten room target graph
          go steps (merged ++ (graph.entries? target).getD []) graph
        | .sequence items =>
          let (parts, graph) ← items.foldlM (fun (parts, graph) item => do
            if (graph.entries? item).isNone then throw .malformed
            let graph ← flatten room item graph
            return ((graph.entries? item).getD [] :: parts, graph)) ([], graph)
          go steps (merged ++ parts.flatten) graph
        | .scalar _ => throw .malformed
      | _, _ =>
        let graph := entries.foldl (fun graph entry =>
          if graph.kind entry.1 == .value then graph.setKind entry.1 .text else graph) graph
        .ok (graph.setContent n (.mapping (merged ++ entries)))
    go graph.entryCount [] graph

def codes (room : Nat) (n : Nat) (graph : Graph) : Except Fault Text.Codes :=
  match room with
  | 0 => .error (.value .endless)
  | room + 1 =>
    match (graph.node n).content with
    | .scalar codes => .ok codes
    | .mapping entries =>
      match entries.find? fun entry => graph.kind entry.1 == .value with
      | some (_, held) => graph.codes room held
      | none => .error .malformed
    | .sequence _ => .error .malformed

end Graph

/-- What a node was made into. The members of collections are told by their numbers. -/
inductive Made
  | scalar (value : Value)
  | nan
  | list (items : List Nat)
  | pairs (entries : List (Nat × Nat))
  | set (entries : List (Nat × Nat))
  | map (entries : List (Nat × Nat))
  deriving Inhabited

namespace Made

def isKey : Made → Bool
  | .scalar _ | .nan => true
  | _ => false

def members : Made → List Nat
  | .scalar _ | .nan => []
  | .list items => items
  | .pairs entries | .map entries => entries.flatMap fun entry => [entry.1, entry.2]
  | .set entries => entries.map (·.1)

def value (look : Nat → Value) : Made → Value
  | .scalar value => value
  | .nan => .float .nan
  | .list items => .list (items.map look)
  | .pairs entries => .list (entries.map fun entry => .pair (look entry.1) (look entry.2))
  | .set entries => .set (entries.map fun entry => look entry.1)
  | .map entries => .map (entries.map fun entry => (look entry.1, look entry.2))

end Made

/-- The state of the making: the nodes, what they were made into, and the collections whose members
are yet to be made, in order. -/
structure Maker where
  graph : Graph
  made : Array (Option Made)
  pending : Array Nat

namespace Maker

def get? (m : Maker) (n : Nat) : Option Made := m.made.getD n none

def set (n : Nat) (made : Made) (m : Maker) : Maker := { m with made := m.made.set! n (some made) }

def opening (n : Nat) (made : Made) (m : Maker) : Maker :=
  { m.set n made with pending := m.pending.push n }

def scalar (n : Nat) (kind : Kind) (m : Maker) : Except Fault Maker := do
  let codes ← m.graph.codes (m.graph.size + 1) n
  match kind, (m.graph.node n).content with
  | .moment, .mapping _ => throw (.value .momentOfMany)
  | _, _ =>
    if kind == .float && Scalar.isNan codes then return m.set n .nan
    else return m.set n (.scalar (← Scalar.value kind codes))

def make (n : Nat) (m : Maker) : Except Fault Maker :=
  if (m.get? n).isSome then .ok m
  else
    match m.graph.kind n with
    | .sequence => .ok (m.opening n (.list []))
    | .omap | .pairs => .ok (m.opening n (.pairs []))
    | .set => .ok (m.opening n (.set []))
    | .mapping => .ok (m.opening n (.map []))
    | .merge | .value | .unknown => .error .malformed
    | kind => m.scalar n kind

def sameKey (m : Maker) (a b : Nat) : Bool :=
  a == b ||
    match m.get? a, m.get? b with
    | some .nan, some .nan => true
    | some (.scalar x), some (.scalar y) => x.sameKey y
    | _, _ => false

/-- Set an entry: in its old place if its key is there, at the end otherwise. -/
def put (m : Maker) (entries : List (Nat × Nat)) (key value : Nat) : List (Nat × Nat) :=
  if entries.any fun entry => m.sameKey entry.1 key then
    entries.map fun entry => if m.sameKey entry.1 key then (entry.1, value) else entry
  else entries ++ [(key, value)]

def entries (n : Nat) (m : Maker) : Except Fault (List (Nat × Nat) × Maker) := do
  if (m.graph.entries? n).isNone then throw .malformed
  let m := { m with graph := ← m.graph.flatten (m.graph.entryCount + 1) n }
  ((m.graph.entries? n).getD []).foldlM (fun (done, m) (key, value) => do
    let m ← m.make key
    if ((m.get? key).map Made.isKey) != some true then throw .malformed
    let m ← m.make value
    return (m.put done key value, m)) (([] : List (Nat × Nat)), m)

def fill (n : Nat) (m : Maker) : Except Fault Maker :=
  match m.get? n, (m.graph.node n).content with
  | some (.list _), .sequence items => do
    let m ← items.foldlM (fun m item => m.make item) m
    return m.set n (.list items)
  | some (.pairs _), .sequence items => do
    let (pairs, m) ← items.foldlM (fun (pairs, m) item =>
      match m.graph.entries? item with
      | some [(key, value)] => do
        let m ← m.make key
        let m ← m.make value
        return (pairs ++ [(key, value)], m)
      | _ => throw .malformed) (([] : List (Nat × Nat)), m)
    return m.set n (.pairs pairs)
  | some (.set _), _ => do
    let (entries, m) ← m.entries n
    return m.set n (.set entries)
  | some (.map _), _ => do
    let (entries, m) ← m.entries n
    return m.set n (.map entries)
  | _, _ => .error .malformed

/-- Make the members of all collections, level by level; there are fewer levels than nodes. -/
def run (room : Nat) (m : Maker) : Except Fault Maker :=
  match room with
  | 0 => .ok m
  | room + 1 => do
    if m.pending.isEmpty then return m
    let m ← m.pending.foldlM (fun m n => m.fill n) { m with pending := #[] }
    run room m

/-- The value of a node where no collection lies in itself; in `order` all collections stand behind
their members. -/
def value (m : Maker) (order : List Nat) (root : Nat) : Value :=
  let table := order.foldl (fun (table : Array Value) n =>
    match m.get? n with
    | some made => table.set! n (made.value fun member => table.getD member .null)
    | none => table) (Array.replicate m.graph.size .null)
  table.getD root .null

/-- The nodes that lie in some nodes, at any depth, and were not seen before. -/
def reached (m : Maker) (room : Nat) (seen : List Nat) : List Nat → List Nat
  | [] => seen
  | n :: rest =>
    match room with
    | 0 => seen
    | room + 1 =>
      if seen.contains n then reached m room seen rest
      else reached m room (n :: seen) (((m.get? n).map Made.members).getD [] ++ rest)

def knots (m : Maker) : List Nat :=
  let members (n : Nat) : List Nat := ((m.get? n).map Made.members).getD []
  let all := List.range m.graph.size
  let room := (all.map fun n => (members n).length + 1).foldl (· + ·) 1
  all.filter fun n => (m.reached room [] (members n)).contains n

/-- The value of a node where collections may lie in themselves. -/
def tied (m : Maker) (knots : List Nat) (room : Nat) (around : List Nat) (n : Nat) : Value :=
  match room with
  | 0 => .null
  | room + 1 =>
    if around.contains n then .again n
    else
      match m.get? n with
      | none => .null
      | some made =>
        let value := made.value (tied m knots room (n :: around))
        if knots.contains n then .knot n value else value

end Maker

/-- The value of a document; null where it holds nothing. -/
def Document.value (document : Document) : Except Fault Value :=
  match document.root with
  | none => .ok .null
  | some root => do
    let size := document.graph.size
    let maker : Maker := ⟨document.graph, Array.replicate size none, #[]⟩
    let maker ← (← maker.make root).run (size + 1)
    return if document.looped then maker.tied maker.knots (size + 1) [] root
      else maker.value document.order root

def isReadable (c : Char) : Bool :=
  let n := c.toNat
  n == 0x09 || n == 0x0A || n == 0x0D || n == 0x85 || (0x20 ≤ n && n ≤ 0x7E) ||
    (0xA0 ≤ n && n ≤ 0xFFFD) || 0x10000 ≤ n

/-- How many characters are read together; the first two blocks are read at once. -/
def blockSize : Nat := 4096

def blockStart (n : Nat) : Nat := if n < 2 * blockSize then 0 else n / blockSize * blockSize

/-- The value of the document in a text that ends with a fault, or with its end. -/
def read (text : List Char) (ending : Option Text.Utf8.Fault) : Except Fault Value := do
  let readable := (text.takeWhile isReadable).length
  let broken := ending.map fun fault => (blockStart text.length, Fault.undecodable fault)
  let strange :=
    if readable < text.length then some (blockStart readable, Fault.malformed) else none
  let wall :=
    match broken, strange with
    | some b, some s => some (if s.1 < b.1 then s else b)
    | some b, none => some b
    | none, s => s
  match wall with
  | none => (← documentOf text none).value
  | some (0, fault) => throw fault
  | some (n, fault) => (← documentOf (text.take n) (some fault)).value
where
  documentOf (text : List Char) (wall : Option Fault) : Except Fault Document :=
    let (tokens, stopped) := Token.scan text wall
    Document.ofTokens tokens stopped

def readFile (bytes : List UInt8) : Except Fault Value :=
  let (text, fault) := Text.Utf8.decodeFile bytes
  read (Text.unifyLineEnds text) fault

end Rollout.Yaml
