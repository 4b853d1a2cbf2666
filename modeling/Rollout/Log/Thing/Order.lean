import Rollout.Log.SetupFault
import Rollout.Log.Thing

/-!
The sameness and the order of things.

Collections are the same where their members are. Numbers are ordered by their value, texts by their
code points, and rows by their first items that differ. Things of other kinds have no order; that is
told by the kinds of the two.
-/

set_option autoImplicit false
set_option relaxedAutoImplicit false

namespace Rollout.Log

open Number (Binary64)

namespace Thing

def orderOf {α : Type} [Ord α] (a b : α) : Option Ordering := some (compare a b)

/-- The order of two rows of numbers by their first numbers that differ. -/
def orderOfRows : List Nat → List Nat → Ordering
  | [], [] => .eq
  | [], _ => .lt
  | _, [] => .gt
  | a :: as, b :: bs =>
    match compare a b with
    | .eq => orderOfRows as bs
    | order => order

/-- A number as a whole number of least positive ones; infinity is none. -/
def leastOf? : Thing → Option Int
  | .value (.float (.finite negative mantissa scale)) =>
    some (Binary64.least negative mantissa scale)
  | thing => thing.whole?.map (· * (Binary64.leastInOne : Int))

/-- The order of two numbers; not-a-number has none. -/
def numberOrder (a b : Thing) : Option Ordering :=
  match a, b with
  | .value (.float .nan), _ | _, .value (.float .nan) => none
  | .value (.float (.infinite x)), .value (.float (.infinite y)) => orderOf y.toNat x.toNat
  | .value (.float (.infinite x)), _ => some (if x then .lt else .gt)
  | _, .value (.float (.infinite y)) => some (if y then .gt else .lt)
  | _, _ => do orderOf (← leastOf? a) (← leastOf? b)

def isNumber (thing : Thing) : Bool :=
  match thing with
  | .value (.float _) => true
  | _ => thing.whole?.isSome

def codes? : Thing → Option Text.Codes
  | .value (.text s) => some (.ofText s)
  | .value (.codes ns) => some ns
  | _ => none

def bytes? : Thing → Option (List UInt8)
  | .value (.bytes bytes) => some bytes
  | _ => none

/-- Whether a thing is a row of a kind: rows of different kinds have no order. -/
def rowKind? (thing : Thing) : Option String :=
  if ["tuple", "list"].contains thing.kind then some thing.kind else none

def orderDepth : Nat := 100

/-- Whether two collections have the same members in the same order. -/
def sameAll (same : Thing → Thing → Bool) (as bs : List Thing) : Bool :=
  as.length == bs.length && (as.zip bs).all fun (a, b) => same a b

def holdsAll (same : Thing → Thing → Bool) (as bs : List (Thing × Thing)) : Bool :=
  as.all fun x => bs.any fun y => x.1.sameKey y.1 && same x.2 y.2

def isSame : Nat → Thing → Thing → Bool
  | 0, a, b => a.sameKey b
  | depth + 1, a, b =>
    a.sameKey b ||
      match a.entries?, b.entries? with
      | some as, some bs => as.length == bs.length && holdsAll (isSame depth) as bs
      | _, _ =>
        if a.rowKind?.isSome && a.rowKind? == b.rowKind? then
          sameAll (isSame depth) (a.members?.getD []) (b.members?.getD [])
        else if a.kind == "set" && b.kind == "set" then
          let as := a.members?.getD []
          let bs := b.members?.getD []
          as.length == bs.length && as.all fun x => bs.any (x.sameKey ·)
        else false

def same (a b : Thing) : Bool := isSame orderDepth a b

/-- The order of two things: the inner answer is none where neither comes first. `sign` is the
sign of the comparison, and `fuel` bounds how deep rows are looked into. -/
def orderIn (sign : String) : Nat → Thing → Thing → Except Misuse (Option Ordering)
  | 0, _, _ => .ok none
  | fuel + 1, a, b =>
    if a.isNumber && b.isNumber then .ok (numberOrder a b)
    else match a.codes?, b.codes?, a.bytes?, b.bytes? with
      | some s, some t, _, _ => .ok (some (orderOfRows s t))
      | _, _, some s, some t => .ok (some (orderOfRows (s.map (·.toNat)) (t.map (·.toNat))))
      | _, _, _, _ =>
        if a.rowKind?.isSome && a.rowKind? == b.rowKind? then
          let as := a.members?.getD []
          let bs := b.members?.getD []
          match (as.zip bs).find? fun (x, y) => !x.same y with
          | some (x, y) => orderIn sign fuel x y
          | none => .ok (orderOf as.length bs.length)
        else .error (.unordered sign a.kind b.kind)

def isBefore (a b : Thing) : Except Misuse Bool :=
  (orderIn "<" orderDepth a b).map (· == some .lt)

def isAtLeast (a b : Thing) : Except Misuse Bool :=
  (orderIn ">=" orderDepth a b).map fun order => order == some .gt || order == some .eq

/-- How many things at the start are in falling order, and how many are in rising order. -/
def startRun (last : Thing) : List Thing → Except Misuse (Bool × Nat)
  | [] => .ok (false, 1)
  | thing :: rest => do
    let falls ← isBefore thing last
    return (falls, 2 + (← count falls thing rest))
where
  count (falls : Bool) (last : Thing) : List Thing → Except Misuse Nat
    | [] => .ok 0
    | thing :: rest => do
      if (← isBefore thing last) == falls then return 1 + (← count falls thing rest)
      return 0

/-- The place of a thing in a sorted row, behind all that do not come after it. The middle of the
places that are left is looked at first. -/
def placeIn (row : List Thing) (thing : Thing) : Nat → Nat → Nat → Except Misuse Nat
  | 0, low, _ => .ok low
  | fuel + 1, low, high => do
    if low ≥ high then return low
    let middle := low + (high - low) / 2
    match row[middle]? with
    | none => return low
    | some held =>
      if ← isBefore thing held then placeIn row thing fuel low middle
      else placeIn row thing fuel (middle + 1) high

def putAll (row : List Thing) : List Thing → Except Misuse (List Thing)
  | [] => .ok row
  | thing :: rest => do
    let place ← placeIn row thing row.length 0 row.length
    putAll (row.take place ++ thing :: row.drop place) rest

/-- Things in their order; the run at the start is taken over as it is. -/
def sorted : List Thing → Except Misuse (List Thing)
  | [] => .ok []
  | thing :: rest => do
    let (falls, count) ← startRun thing rest
    let run := (thing :: rest).take count
    putAll (if falls then run.reverse else run) ((thing :: rest).drop count)

example : (sorted [whole 2, whole 1, whole 3]).toOption.map (·.map whole?) =
    some [some 1, some 2, some 3] := by decide +kernel

end Thing

end Rollout.Log
