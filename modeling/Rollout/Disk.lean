import Rollout.Disk.Fault
import Rollout.Path
import Rollout.Text.Newline
import Rollout.Text.Utf8

/-!
The disk: directories, files and links under places.

A place is the row of names that leads to an entry from the top. Names are walked from left to
right; a link on the way is replaced by its target, and only so many links are followed. A path can
also be resolved, which removes its links and double dots as far as entries exist and keeps the
rest.
-/

set_option autoImplicit false
set_option relaxedAutoImplicit false

namespace Rollout

abbrev Place := List String

inductive Entry
  | directory (mode : Nat)
  | file (bytes : List UInt8) (mode : Nat)
  | link (target : String)
  | program (name : String)
  | device (name : String)
  deriving DecidableEq, Repr

structure Disk where
  entries : List (Place × Entry)
  here : Place
  deriving DecidableEq, Repr

namespace Disk

/-- The entry at a place; the top is a directory. -/
def entryAt (disk : Disk) : Place → Option Entry
  | [] => some (.directory 0o755)
  | place => (disk.entries.find? (·.1 == place)).map (·.2)

def put (disk : Disk) (place : Place) (entry : Entry) : Disk :=
  if disk.entries.any (·.1 == place) then
    { disk with
      entries := disk.entries.map fun old => if old.1 == place then (place, entry) else old }
  else { disk with entries := disk.entries ++ [(place, entry)] }

def remove (disk : Disk) (place : Place) : Disk :=
  { disk with entries := disk.entries.filter fun old => !place.isPrefixOf old.1 }

def namesIn (disk : Disk) (place : Place) : List String :=
  disk.entries.filterMap fun entry =>
    match entry.1.getLast? with
    | some name => if entry.1.dropLast = place then some name else none
    | none => none

def linkLimit : Nat := 40

def nameLimit : Nat := 255

def pathLimit : Nat := 4095

def namesOf (text : String) : List String := (Path.pieces text.toList).map String.ofList

def fromTop (text : String) : Bool := text.startsWith "/"

/-- Walk names from a directory: the place reached and what stands there. Only the last name may be
absent. A link at the end is followed if `follow` says so. -/
def walk (disk : Disk) (follow : Bool) (links : Nat) (base : Place) (names : List String) :
    Except Cause (Place × Option Entry) :=
  match names with
  | [] => .ok (base, disk.entryAt base)
  | name :: rest =>
    if name = "" ∨ name = "." then walk disk follow links base rest
    else if name = ".." then walk disk follow links base.dropLast rest
    else if name.utf8ByteSize > nameLimit then .error .nameTooLong
    else
      let place := base ++ [name]
      match disk.entryAt place with
      | none => if rest.isEmpty then .ok (place, none) else .error .absent
      | some (.directory _) => walk disk follow links place rest
      | some (.link target) =>
        if rest.isEmpty && !follow then .ok (place, some (.link target))
        else match links with
          | 0 => .error .linkLoop
          | left + 1 =>
            walk disk follow left (if fromTop target then [] else base) (namesOf target ++ rest)
      | some entry => if rest.isEmpty then .ok (place, some entry) else .error .notDirectory
  termination_by (links, names.length)

def locate (disk : Disk) (follow : Bool) (base : Place) (text : String) :
    Except Cause (Place × Option Entry) :=
  if text.isEmpty then .error .absent
  else if text.utf8ByteSize > pathLimit then .error .nameTooLong
  else disk.walk follow linkLimit (if fromTop text then [] else base) (namesOf text)

def find (disk : Disk) (base : Place) (text : String) : Except Cause (Place × Entry) := do
  match ← disk.locate true base text with
  | (place, some entry) => return (place, entry)
  | (_, none) => throw .absent

/-- Whether a path leads to an entry. Paths that are cut off by absence, by a file on the way or by
a loop of links lead nowhere; other refusals stand. -/
def hasEntry (disk : Disk) (path : Path) : Except Fault Bool :=
  let text := path.toString
  if text.contains '\x00' then .ok false
  else match disk.find disk.here text with
    | .ok _ => .ok true
    | .error .absent | .error .notDirectory | .error .linkLoop => .ok false
    | .error cause => .error ⟨cause, some text⟩

def bytesAt (disk : Disk) (base : Place) (text : String) : Except Fault (List UInt8) :=
  match disk.find base text with
  | .error cause => .error ⟨cause, some text⟩
  | .ok (_, .file bytes _) => .ok bytes
  | .ok (_, .directory _) => .error ⟨.isDirectory, some text⟩
  | .ok _ => .ok []

def read (disk : Disk) (path : Path) : Except Fault (List UInt8) :=
  disk.bytesAt disk.here path.toString

/-- The target of the link that a path leads to, if it leads to one. -/
def linkAt (disk : Disk) (path : Path) : Option String :=
  match disk.locate false disk.here path.toString with
  | .ok (_, some (.link target)) => some target
  | _ => none

/-- The links met while a path is resolved, each with the path that it leads to once that is
known. -/
abbrev Links := List (Path × Option Path)

/-- How deep links may lead to links while a path is resolved. -/
def depthLimit : Nat := 1000

/-- Resolve names from a resolved path: the path that they lead to, with the links met. Links are
told apart by their paths, so a link met from the top and from the working directory is met twice.
A link that is met again before its own end is known stops it, with the text of the link and of the
names that are left. -/
def resolveFrom (disk : Disk) (depth : Nat) (links : Links) (base : Path) (names : List String) :
    Except Unresolved (Path × Links) :=
  match names with
  | [] => .ok (base, links)
  | name :: rest =>
    if name = "" ∨ name = "." then resolveFrom disk depth links base rest
    else if name = ".." then resolveFrom disk depth links base.above rest
    else
      let path := base.child name
      let loopAt (front : String) := .loop (Path.joinText front ("/".intercalate rest))
      match disk.linkAt path with
      | none => resolveFrom disk depth links path rest
      | some target =>
        match links.find? (·.1 == path) with
        | some (_, some known) => resolveFrom disk depth links known rest
        | some (_, none) => .error (loopAt path.toString)
        | none =>
          match depth with
          | 0 => .error .endless
          | below + 1 =>
            let start := if fromTop target then Path.top else base
            match resolveFrom disk below ((path, none) :: links) start (namesOf target) with
            | .error (.loop text) => .error (loopAt text)
            | .error .endless => .error .endless
            | .ok (known, met) =>
              resolveFrom disk (below + 1) ((path, some known) :: met) known rest
  termination_by (depth, names.length)

def cancel (base : Place) (names : List String) : Place :=
  names.foldl (fun place name => if name = ".." then place.dropLast else place ++ [name]) base

def straight (disk : Disk) (path : Path) : Path :=
  if path.isAbsolute then ⟨path.root, cancel [] path.parts⟩
  else ⟨.absolute, cancel disk.here path.parts⟩

/-- The resolved path of a path: from the top, without links and double dots; none where links lead
in a circle, with the path at which they do, or lead on without end. -/
def resolve (disk : Disk) (path : Path) : Except Unresolved Path := do
  let start := if path.isAbsolute then Path.top else Path.bare
  let reached ←
    match disk.resolveFrom depthLimit [] start path.parts with
    | .ok (reached, _) => pure reached
    | .error (.loop text) => pure (Path.ofString text)
    | .error .endless => throw .endless
  let resolved := disk.straight reached
  match disk.find disk.here resolved.toString with
  | .error .linkLoop => throw (.loop resolved.toString)
  | _ => return resolved

end Disk

end Rollout
