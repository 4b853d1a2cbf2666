import Rollout.Log.Thing.Order

/-!
The items of things.

Rows have items under whole numbers, counted from the end where they are negative, and mappings have
them under keys.
-/

set_option autoImplicit false
set_option relaxedAutoImplicit false

namespace Rollout.Log.Thing

def keylessKinds : List String := ["list", "dict", "set"]

def checkKey (thing : Thing) : Except Misuse Unit :=
  if keylessKinds.contains thing.kind then .error (.noKey thing.kind) else .ok ()

/-- The item of a number in a row; a negative number counts from the end. -/
def itemAt? (items : List Thing) (index : Int) : Option Thing :=
  let place := if index < 0 then index + items.length else index
  if place < 0 then none else items[place.toNat]?

def itemOfRow (row : String) (items : List Thing) (bad : Misuse) (index : Thing) :
    Except SetupFault Thing :=
  match index.whole? with
  | none => .error (.misuse bad)
  | some i =>
    match itemAt? items i with
    | some item => .ok item
    | none => .error (.noItem row)

def under? (entries : List (Thing × Thing)) (key : Thing) : Option Thing :=
  (entries.find? (·.1.sameKey key)).map (·.2)

/-- Put an entry into a mapping: in its old place if its key is there, at the end otherwise. -/
def put (entries : List (Thing × Thing)) (key thing : Thing) : List (Thing × Thing) :=
  if entries.any (·.1.sameKey key) then
    entries.map fun entry => if entry.1.sameKey key then (entry.1, thing) else entry
  else entries ++ [(key, thing)]

def item (thing index : Thing) : Except SetupFault Thing :=
  match thing.entries?, thing.members? with
  | some entries, _ => do
    (checkKey index).mapError SetupFault.misuse
    match under? entries index with
    | some held => return held
    | none => throw (.missing index.toValue.quote)
  | none, some items =>
    match thing.kind with
    | "str" => itemOfRow "string " items (.textIndex index.kind) index
    | "bytes" => itemOfRow "" items (.badIndex "byte" index.kind) index
    | "tuple" => itemOfRow "tuple " items (.badIndex "tuple" index.kind) index
    | "list" => itemOfRow "list " items (.badIndex "list" index.kind) index
    | kind => .error (.misuse (.noItems kind))
  | none, none => .error (.misuse (.noItems thing.kind))

example : itemAt? [whole 1, whole 2] (-1) = some (whole 2) := by rfl

end Rollout.Log.Thing
