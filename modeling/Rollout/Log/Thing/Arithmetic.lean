import Rollout.Log.Expression
import Rollout.Log.Thing.Item

/-!
What things are when they are joined by signs.

Numbers are counted with, rows are put behind each other or repeated, and collections are united.
Whatever else is joined is a misuse.
-/

set_option autoImplicit false
set_option relaxedAutoImplicit false

namespace Rollout.Log.Thing

open Number (Binary64)

def float (x : Binary64) : Thing := .value (.float x)

def byZero {α : Type} (words : String) : Except Fault α := .error (.setup (.division words))

/-! ### Numbers -/

/-- An operation on the binary digits of whole numbers, negative ones having endless leading
ones. -/
def bitwise (f : Nat → Nat → Nat) (i j : Int) : Int :=
  let span := Nat.pow 2 (max i.natAbs.log2 j.natAbs.log2 + 2)
  Int.bmod (f (i % span).toNat (j % span).toNat) span

def joinWholes (joint : Joint) (i j : Int) : Except Fault Thing :=
  match joint with
  | .plus => .ok (.whole (i + j))
  | .minus => .ok (.whole (i - j))
  | .times => .ok (.whole (i * j))
  | .over =>
    if j = 0 then byZero "division by zero"
    else .ok (.float (.ofRatio (decide (i < 0) != decide (j < 0)) i.natAbs j.natAbs))
  | .floor =>
    if j = 0 then byZero "integer division or modulo by zero" else .ok (.whole (Int.fdiv i j))
  | .rest => if j = 0 then byZero "integer modulo by zero" else .ok (.whole (Int.fmod i j))
  | .power =>
    if j ≥ 0 then .ok (.whole (Int.pow i j.toNat))
    else if i = 0 then byZero "0.0 cannot be raised to a negative power"
    else .ok (.float (.ofRatio (i < 0 && j % 2 = 1) 1 (Nat.pow i.natAbs j.natAbs)))
  | .left =>
    if j < 0 then .error (.setup (.refused .negativeShift))
    else .ok (.whole (i * Nat.pow 2 j.toNat))
  | .right =>
    if j < 0 then .error (.setup (.refused .negativeShift))
    else .ok (.whole (Int.fdiv i (Nat.pow 2 j.toNat)))
  | .both => .ok (.whole (bitwise Nat.land i j))
  | .either => .ok (.whole (bitwise Nat.lor i j))
  | .differing => .ok (.whole (bitwise Nat.xor i j))
  | .matrix => .error (.setup (.misuse (.operands joint.toldSign "int" "int")))

def floatOf (thing : Thing) : Except Fault Binary64 :=
  match thing, thing.whole? with
  | .value (.float x), _ => .ok x
  | _, some i =>
    match Binary64.ofInt? i with
    | some x => .ok x
    | none => .error (.value .overflow)
  | _, none => .ok .nan

/-- The whole part of a quotient and what is left, where both numbers are finite. -/
def quotient (x y : Binary64) : Binary64 × Binary64 :=
  match x, y with
  | .finite a m p, .finite b n q =>
    let (i, j) := (Binary64.least a m p, Binary64.least b n q)
    let left := Int.fmod i j
    (.ofRatio (Int.fdiv i j < 0) (Int.fdiv i j).natAbs 1, .ofLeast (left < 0) left.natAbs 1)
  | _, _ => (.nan, .nan)

def powerOf (x : Binary64) (count : Nat) : Binary64 :=
  (List.replicate count x).foldl Binary64.mul (.ofRatio false 1 1)

def joinFloats (joint : Joint) (x y : Binary64) (misuse : Misuse) : Except Fault Thing :=
  match joint with
  | .plus => .ok (.float (x.add y))
  | .minus => .ok (.float (x.sub y))
  | .times => .ok (.float (x.mul y))
  | .over => if y.isZero then byZero "float division by zero" else .ok (.float (x.div y))
  | .floor =>
    if y.isZero then byZero "float floor division by zero" else .ok (.float (quotient x y).1)
  | .rest => if y.isZero then byZero "float modulo" else .ok (.float (quotient x y).2)
  | .power =>
    match y.toInt? with
    | some count =>
      if count ≥ 0 then .ok (.float (powerOf x count.toNat))
      else if x.isZero then byZero "0.0 cannot be raised to a negative power"
      else .ok (.float ((Binary64.ofRatio false 1 1).div (powerOf x count.natAbs)))
    | none => .ok (.other "float")
  | _ => .error (.setup (.misuse misuse))

def joinNumbers (joint : Joint) (a b : Thing) : Except Fault Thing :=
  let misuse : Misuse := .operands joint.toldSign a.kind b.kind
  match a, b, a.whole?, b.whole? with
  | .value (.bool x), .value (.bool y), some i, some j =>
    match joint with
    | .both => .ok (.value (.bool (x && y)))
    | .either => .ok (.value (.bool (x || y)))
    | .differing => .ok (.value (.bool (x != y)))
    | _ => joinWholes joint i j
  | _, _, some i, some j => joinWholes joint i j
  | _, _, _, _ => do joinFloats joint (← floatOf a) (← floatOf b) misuse

/-! ### Rows and collections -/

def isRow (thing : Thing) : Bool := ["str", "bytes", "tuple", "list"].contains thing.kind

def ofCodes (codes : Text.Codes) : Thing :=
  match codes.chars? with
  | some cs => .text (String.ofList cs)
  | none => .value (.codes codes)

/-- The rows behind each other, all of which are of the kind of the first. -/
def joinRows (first : Thing) (rows : List Thing) : Thing :=
  match first.codes?, first.bytes? with
  | some _, _ => ofCodes (rows.flatMap fun row => row.codes?.getD [])
  | none, some _ => .value (.bytes (rows.flatMap fun row => row.bytes?.getD []))
  | none, none =>
    let items := rows.flatMap fun row => row.members?.getD []
    if first.kind == "list" then .list items else .tuple items

def append (row thing : Thing) : Except Misuse Thing :=
  if row.kind == thing.kind then .ok (joinRows row [row, thing])
  else if row.kind == "bytes" then .error (.bytesNotJoined thing.kind)
  else .error (.notJoined row.kind thing.kind)

def repeated (row count : Thing) : Except Misuse Thing :=
  match count.whole? with
  | some i => .ok (joinRows row (List.replicate i.toNat row))
  | none => .error (.notRepeated count.kind)

def joinSets? (joint : Joint) (as bs : List Thing) : Option Thing :=
  let isIn (items : List Thing) (x : Thing) : Bool := items.any (·.sameKey x)
  let only (items others : List Thing) : List Thing := items.filter fun x => !isIn others x
  match joint with
  | .both => some (.set (as.filter (isIn bs)))
  | .either => some (.set (as ++ only bs as))
  | .minus => some (.set (only as bs))
  | .differing => some (.set (only as bs ++ only bs as))
  | _ => none

def joinCollections? (joint : Joint) (a b : Thing) : Option Thing :=
  match joint, a.entries?, b.entries? with
  | .either, some as, some bs =>
    some (.map (bs.foldl (fun made (key, held) => Thing.put made key held) as))
  | _, _, _ =>
    if a.kind == "set" && b.kind == "set" then
      joinSets? joint (a.members?.getD []) (b.members?.getD [])
    else none

def join (joint : Joint) (a b : Thing) : Except Fault Thing :=
  let ofMisuse (answer : Except Misuse Thing) : Except Fault Thing :=
    answer.mapError fun misuse => .setup (.misuse misuse)
  if a.isNumber && b.isNumber then joinNumbers joint a b
  else if joint == .plus && a.isRow then ofMisuse (append a b)
  else if joint == .times && a.isRow then ofMisuse (repeated a b)
  else if joint == .times && b.isRow then ofMisuse (repeated b a)
  else if joint == .rest && a.isRow && a.rowKind?.isNone then .ok (.other a.kind)
  else match joinCollections? joint a b with
    | some thing => .ok thing
    | none => .error (.setup (.misuse (.operands joint.toldSign a.kind b.kind)))

def signed (thing : Thing) (sign : Sign) : Except Misuse Thing :=
  match sign, thing, thing.whole? with
  | .plus, _, some i => .ok (.whole i)
  | .minus, _, some i => .ok (.whole (-i))
  | .flip, _, some i => .ok (.whole (-i - 1))
  | .plus, .value (.float x), none => .ok (.float x)
  | .minus, .value (.float x), none => .ok (.float x.neg)
  | _, _, none => .error (.operand sign.text thing.kind)

example : bitwise Nat.land (-1) 6 = 6 := by decide +kernel

end Rollout.Log.Thing
