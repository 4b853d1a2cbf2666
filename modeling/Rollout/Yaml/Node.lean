import Rollout.Yaml.Plain
import Rollout.Yaml.Scan

/-!
From tokens to the nodes of a document.

A text holds one document at most. The nodes of a document are numbered, and a collection holds the
numbers of the nodes in it. An alias stands for the number of the node that it names, so that a
collection may lie in itself.
-/

set_option autoImplicit false
set_option relaxedAutoImplicit false

namespace Rollout.Yaml

inductive Content
  | scalar (codes : Text.Codes)
  | sequence (items : List Nat)
  | mapping (entries : List (Nat × Nat))
  deriving Inhabited

structure Node where
  kind : Kind
  content : Content

abbrev Graph := Array Node

namespace Graph

def node (graph : Graph) (n : Nat) : Node := graph.getD n ⟨.null, .scalar []⟩

def kind (graph : Graph) (n : Nat) : Kind := (graph.node n).kind

def setKind (graph : Graph) (n : Nat) (kind : Kind) : Graph :=
  graph.modify n fun node => { node with kind := kind }

def setContent (graph : Graph) (n : Nat) (content : Content) : Graph :=
  graph.modify n fun node => { node with content := content }

def entries? (graph : Graph) (n : Nat) : Option (List (Nat × Nat)) :=
  match (graph.node n).content with
  | .mapping entries => some entries
  | _ => none

end Graph

def usualLead : List Char := "tag:yaml.org,2002:".toList

def usualKinds : List (String × Kind) := [
  ("null", .null), ("bool", .bool), ("int", .int), ("float", .float), ("str", .text),
  ("binary", .binary), ("timestamp", .moment), ("seq", .sequence), ("map", .mapping),
  ("set", .set), ("omap", .omap), ("pairs", .pairs), ("merge", .merge), ("value", .value)]

def kindOfTag (tag : List Char) : Kind :=
  match usualKinds.find? fun entry => usualLead ++ entry.1.toList == tag with
  | some (_, kind) => kind
  | none => .unknown

/-- The state of the composer: the tokens ahead, the tag handles, the nodes so far, and those that
were named. -/
structure Composer where
  tokens : List Token
  handles : List (List Char × List Char)
  anchors : List (List Char × Nat)
  nodes : Graph
  finished : Array Nat
  around : List Nat
  looped : Bool
  ending : Fault

namespace Composer

def peek (c : Composer) : Except Fault Token :=
  match c.tokens with
  | token :: _ => .ok token
  | [] => .error c.ending

def advance (c : Composer) : Composer := { c with tokens := c.tokens.drop 1 }

def number (node : Node) (c : Composer) : Nat × Composer :=
  (c.nodes.size, { c with nodes := c.nodes.push node })

def add (node : Node) (c : Composer) : Nat × Composer :=
  let (n, c) := c.number node
  (n, { c with finished := c.finished.push n })

def addEmpty (c : Composer) : Nat × Composer := c.add ⟨Plain.kind [], .scalar []⟩

/-- What stands in front of a node: its anchor and its tag. -/
structure Properties where
  anchor : Option (List Char)
  tag : Option (Option (List Char) × List Char)

/-- Read what stands in front of a node: an anchor and a tag in either order. -/
def properties (c : Composer) : Properties × Composer :=
  match c.tokens with
  | .anchor name :: .tag handle suffix :: _ =>
    (⟨some name, some (handle, suffix)⟩, c.advance.advance)
  | .tag handle suffix :: .anchor name :: _ =>
    (⟨some name, some (handle, suffix)⟩, c.advance.advance)
  | .anchor name :: _ => (⟨some name, none⟩, c.advance)
  | .tag handle suffix :: _ => (⟨none, some (handle, suffix)⟩, c.advance)
  | _ => (⟨none, none⟩, c)

def fullTag (c : Composer) : Option (Option (List Char) × List Char) →
    Except Fault (Option (List Char))
  | none => .ok none
  | some (none, suffix) => .ok (some suffix)
  | some (some handle, suffix) =>
    match c.handles.find? (·.1 == handle) with
    | some (_, lead) => .ok (some (lead ++ suffix))
    | none => .error .malformed

/-- The kind of a node with a full tag; a lone exclamation mark is no tag. -/
def kindWith (tag : Option (List Char)) (usual : Kind) : Kind :=
  match tag with
  | none => usual
  | some tag => if tag == ['!'] then usual else kindOfTag tag

def bind (anchor : Option (List Char)) (n : Nat) (c : Composer) : Composer :=
  match anchor with
  | none => c
  | some name => { c with anchors := (name, n) :: c.anchors }

def usualKind (codes : Text.Codes) (plain : Bool) : Kind :=
  if plain then (codes.chars?.map Plain.kind).getD .text else .text

/-- How many collections may lie around a collection. -/
def depthLimit : Nat := 488

def collection {α : Type} (anchor : Option (List Char)) (kind : Kind)
    (content : List α → Content) (read : Composer → Except Fault (List α × Composer))
    (c : Composer) : Except Fault (Nat × Composer) := do
  if c.around.length ≥ depthLimit then throw (.value .endless)
  let (n, c) := c.number ⟨kind, content []⟩
  let (members, c) ← read ({ c with around := n :: c.around }.bind anchor n)
  let nodes := c.nodes.setContent n (content members)
  return (n, { c with nodes, finished := c.finished.push n, around := c.around.drop 1 })

def checkNew (anchor : Option (List Char)) (c : Composer) : Except Fault Unit :=
  match anchor with
  | none => .ok ()
  | some name => if c.anchors.any (·.1 == name) then .error .malformed else .ok ()

mutual

/-- Read a node. Block collections are only read where they may stand, and so are sequences that are
not indented. -/
def node (room : Nat) (block unindented : Bool) (c : Composer) : Except Fault (Nat × Composer) :=
  match room with
  | 0 => .error .malformed
  | room + 1 => do
    match ← c.peek with
    | .alias name =>
      match c.anchors.find? (·.1 == name) with
      | some (_, n) => return (n, { c.advance with looped := c.looped || c.around.contains n })
      | none => throw .malformed
    | _ =>
      let (properties, c) := c.properties
      let tag ← c.fullTag properties.tag
      let anchor := properties.anchor
      let token ← c.peek
      let sequence (read : Composer → Except Fault (List Nat × Composer)) :
          Except Fault (Nat × Composer) := do
        c.checkNew anchor
        c.collection anchor (kindWith tag .sequence) .sequence read
      let mapping (read : Composer → Except Fault (List (Nat × Nat) × Composer)) :
          Except Fault (Nat × Composer) := do
        c.checkNew anchor
        c.collection anchor (kindWith tag .mapping) .mapping read
      let scalar (usual : Kind) (codes : Text.Codes) (c : Composer) : Nat × Composer :=
        let (n, c) := c.add ⟨kindWith tag usual, .scalar codes⟩
        (n, c.bind anchor n)
      if unindented && token == .blockEntry then
        sequence fun c => unindentedItems room c
      else match token with
        | .scalar codes plain =>
          c.checkNew anchor
          return scalar (usualKind codes (plain || tag == some ['!'])) codes c.advance
        | .flowSequenceStart => sequence fun c => flowItems room true c.advance
        | .flowMappingStart => mapping fun c => flowEntries room true c.advance
        | .blockSequenceStart =>
          if block then sequence fun c => blockItems room c.advance else throw .malformed
        | .blockMappingStart =>
          if block then mapping fun c => blockEntries room c.advance else throw .malformed
        | _ =>
          if anchor.isSome || tag.isSome then
            c.checkNew anchor
            return scalar (usualKind [] (tag.isNone || tag == some ['!'])) [] c
          else throw .malformed

def blockItems (room : Nat) (c : Composer) : Except Fault (List Nat × Composer) :=
  match room with
  | 0 => .error .malformed
  | room + 1 => do
    match ← c.peek with
    | .blockEntry =>
      let c := c.advance
      let (item, c) ←
        match ← c.peek with
        | .blockEntry | .blockEnd => pure c.addEmpty
        | _ => node room true false c
      let (items, c) ← blockItems room c
      return (item :: items, c)
    | .blockEnd => return ([], c.advance)
    | _ => throw .malformed

/-- Read the items of a block sequence that is no deeper than the mapping around it. -/
def unindentedItems (room : Nat) (c : Composer) : Except Fault (List Nat × Composer) :=
  match room with
  | 0 => .error .malformed
  | room + 1 => do
    match ← c.peek with
    | .blockEntry =>
      let c := c.advance
      let (item, c) ←
        match ← c.peek with
        | .blockEntry | .key | .value | .blockEnd => pure c.addEmpty
        | _ => node room true false c
      let (items, c) ← unindentedItems room c
      return (item :: items, c)
    | _ => return ([], c)

def blockPart (room : Nat) (c : Composer) : Except Fault (Nat × Composer) :=
  match room with
  | 0 => .error .malformed
  | room + 1 => do
    match ← c.peek with
    | .key | .value | .blockEnd => return c.addEmpty
    | _ => node room true true c

def blockEntries (room : Nat) (c : Composer) : Except Fault (List (Nat × Nat) × Composer) :=
  match room with
  | 0 => .error .malformed
  | room + 1 => do
    match ← c.peek with
    | .key =>
      let (key, c) ← blockPart room c.advance
      let (value, c) ←
        match ← c.peek with
        | .value => blockPart room c.advance
        | _ => pure c.addEmpty
      let (entries, c) ← blockEntries room c
      return ((key, value) :: entries, c)
    | .blockEnd => return ([], c.advance)
    | _ => throw .malformed

/-- Read a part of a flow collection, which may be left out before the given closing. -/
def flowPart (room : Nat) (orValue : Bool) (closing : Token) (c : Composer) :
    Except Fault (Nat × Composer) :=
  match room with
  | 0 => .error .malformed
  | room + 1 => do
    let token ← c.peek
    if (orValue && token == .value) || token == .flowEntry || token == closing then
      return c.addEmpty
    else node room false false c

/-- Read the value of an entry of a flow collection, if there is one. -/
def flowValue (room : Nat) (closing : Token) (c : Composer) : Except Fault (Nat × Composer) :=
  match room with
  | 0 => .error .malformed
  | room + 1 => do
    match ← c.peek with
    | .value => flowPart room false closing c.advance
    | _ => return c.addEmpty

/-- Read the items of a flow sequence. An item with a key is a mapping of one entry. -/
def flowItems (room : Nat) (first : Bool) (c : Composer) : Except Fault (List Nat × Composer) :=
  match room with
  | 0 => .error .malformed
  | room + 1 => do
    match ← c.peek with
    | .flowSequenceEnd => return ([], c.advance)
    | token =>
      let c ←
        if first then pure c
        else if token == .flowEntry then pure c.advance
        else throw .malformed
      match ← c.peek with
      | .flowSequenceEnd => return ([], c.advance)
      | .key =>
        let (key, c) ← flowPart room true .flowSequenceEnd c.advance
        let (value, c) ← flowValue room .flowSequenceEnd c
        let (entry, c) := c.add ⟨.mapping, .mapping [(key, value)]⟩
        let (items, c) ← flowItems room false c
        return (entry :: items, c)
      | _ =>
        let (item, c) ← node room false false c
        let (items, c) ← flowItems room false c
        return (item :: items, c)

def flowEntries (room : Nat) (first : Bool) (c : Composer) :
    Except Fault (List (Nat × Nat) × Composer) :=
  match room with
  | 0 => .error .malformed
  | room + 1 => do
    match ← c.peek with
    | .flowMappingEnd => return ([], c.advance)
    | token =>
      let c ←
        if first then pure c
        else if token == .flowEntry then pure c.advance
        else throw .malformed
      match ← c.peek with
      | .flowMappingEnd => return ([], c.advance)
      | .key =>
        let (key, c) ← flowPart room true .flowMappingEnd c.advance
        let (value, c) ← flowValue room .flowMappingEnd c
        let (entries, c) ← flowEntries room false c
        return ((key, value) :: entries, c)
      | _ =>
        let (key, c) ← node room false false c
        let (value, c) := c.addEmpty
        let (entries, c) ← flowEntries room false c
        return ((key, value) :: entries, c)

end

def usualHandles : List (List Char × List Char) := [(['!'], ['!']), (['!', '!'], usualLead)]

/-- Read the directives before a document: at most one version, which starts with one, and each
handle once. -/
def directives (c : Composer) (versioned : Bool) : List Token → Except Fault Composer
  | .directive directive :: rest =>
    match directive with
    | .version major =>
      if versioned || major != 1 then .error .malformed
      else directives { c with tokens := rest } true rest
    | .tag handle lead =>
      if c.handles.any (·.1 == handle) then .error .malformed
      else
        directives { c with tokens := rest, handles := (handle, lead) :: c.handles } versioned rest
    | .other => directives { c with tokens := rest } versioned rest
  | _ => .ok { c with handles := c.handles ++ usualHandles }

def content (room : Nat) (c : Composer) : Except Fault (Nat × Composer) := do
  match ← c.peek with
  | .directive _ | .documentStart | .documentEnd | .streamEnd => return c.addEmpty
  | _ => node room true false c

def finish (c : Composer) : Except Fault Unit :=
  match c.tokens.dropWhile (· == .documentEnd) with
  | .streamEnd :: _ => .ok ()
  | _ :: _ => .error .malformed
  | [] => .error c.ending

/-- Read the document of the tokens and answer with its root; none where there is none. -/
def document (room : Nat) (c : Composer) : Except Fault (Option Nat × Composer) := do
  match ← c.peek with
  | .streamEnd => return (none, c)
  | .directive _ | .documentStart =>
    let c ← directives { c with handles := [] } false c.tokens
    match ← c.peek with
    | .documentStart =>
      let (root, c) ← content room c.advance
      c.finish
      return (some root, c)
    | _ => throw .malformed
  | _ =>
    let (root, c) ← node room true false { c with handles := usualHandles }
    c.finish
    return (some root, c)

end Composer

/-- A document: its nodes, and its root unless there is nothing in it. -/
structure Document where
  graph : Graph
  root : Option Nat
  order : List Nat
  looped : Bool

/-- The document of tokens; `stopped` is the fault that they end with. Each step of the reading
takes a token or is followed by one that does, which bounds the steps. -/
def Document.ofTokens (tokens : Array Token) (stopped : Option Fault) :
    Except Fault Document := do
  let composer : Composer :=
    ⟨tokens.toList, [], [], #[], #[], [], false, stopped.getD .malformed⟩
  let (root, composer) ← composer.document (4 * tokens.size + 8)
  return ⟨composer.nodes, root, composer.finished.toList, composer.looped⟩

end Rollout.Yaml
