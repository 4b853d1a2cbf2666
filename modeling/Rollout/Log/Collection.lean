import Rollout.Log.Setup
import Rollout.Log.Thing.Item

/-!
Collections and scalars that are made of other things.

A row has all members of a thing, a set has them once, and a mapping has the entries of a mapping or
those that the members of a row stand for.
-/

set_option autoImplicit false
set_option relaxedAutoImplicit false

namespace Rollout.Log.Collection

open Setup (misuse refuse ofMisuse)

def members (thing : Thing) : Setup (List Thing) :=
  match thing.members? with
  | some items => pure items
  | none => misuse (.noMembers thing.kind)

def checkKey (thing : Thing) : Setup Unit := ofMisuse thing.checkKey

def setOf (items : List Thing) : Setup Thing := do
  let mut members : List Thing := []
  for item in items do
    checkKey item
    if !members.any (·.sameKey item) then members := members ++ [item]
  return .set members

def mapOf (entries : List (Thing × Thing)) : Setup Thing := do
  let mut made : List (Thing × Thing) := []
  for (key, thing) in entries do
    checkKey key
    made := Thing.put made key thing
  return .map made

def entryOf (index : Nat) (thing : Thing) : Setup (Thing × Thing) :=
  match thing.members? with
  | some [key, held] => do
    checkKey key
    return (key, held)
  | some items => refuse (.entryLength index items.length)
  | none => misuse (.noEntry index)

/-- The entries of a thing: those of a mapping, or those that the members of a row stand for. -/
def entriesOf (thing : Thing) : Setup (List (Thing × Thing)) :=
  match thing.entries? with
  | some entries => pure entries
  | none => do
    let entries ← (← members thing).zipIdx.mapM fun (item, index) => entryOf index item
    return entries.foldl (fun made (key, held) => Thing.put made key held) []

def wholeOf (thing : Thing) : Setup Thing :=
  match thing.whole?, thing, thing.text? with
  | some i, _, _ => return .whole i
  | none, .value (.float x), _ =>
    match x.truncated? with
    | some i => return .whole i
    | none => throw .unboundedWait
  | none, _, some text =>
    match Number.readWhole 10 text with
    | .ok i => return .whole i
    | .error (.tooLong digits) => throw (.value (.tooLongToRead digits))
    | .error .malformed => throw (.value (.notWhole 10 (.ofText text)))
  | none, thing, none => misuse (.notNumeral thing.kind)

/-- Make a collection or a scalar, of a thing where one is given. -/
def ofMaker (maker : Maker) (thing? : Option Thing) : Setup Thing :=
  match maker with
  | .tuple => return .tuple (← (thing?.map members).getD (pure []))
  | .list => return .list (← (thing?.map members).getD (pure []))
  | .set => do setOf (← (thing?.map members).getD (pure []))
  | .text => return .text ((thing?.map fun thing => thing.toValue.shown).getD "")
  | .whole => (thing?.map wholeOf).getD (return .whole 0)
  | .truth => return .value (.bool (thing?.any Thing.isGiven))
  | _ => return .nothing

end Rollout.Log.Collection
