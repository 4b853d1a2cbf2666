import Rollout.Value
import Rollout.Value.Fault

/-!
Writing values as texts.

Not every value can be written. A whole number may have too many digits for it, and collections may
lie too deep in each other. A value is written from the outside to the inside and from the front to
the back, and the first fault that is met ends it.
-/

set_option autoImplicit false
set_option relaxedAutoImplicit false

namespace Rollout.Value

/-- How many levels of a value can be written. There is room for a thousand calls, and those that led
to the writing take up some of it: how many, depends on the place. -/
def depthLimit : Nat := 990

/-- The levels that the zone of a moment takes: its name, and the span that it stands for. -/
def zoneLevels : Option Int → Nat
  | none => 0
  | some 0 => 1
  | some _ => 2

mutual

/-- The first fault in a value that lies in some knots, if there is room for so many levels. A set is
written as the list of its members. -/
def faultIn (around : List Nat) : Nat → Value → Option Fault
  | 0, _ => some .tooDeepToShow
  | _ + 1, .int i => if Number.isOversized i then some .tooLongToShow else none
  | room + 1, .moment m => if room < zoneLevels m.offset then some .tooDeepToShow else none
  | room + 1, .list items => faultAmong around room items
  | room + 1, .set items => faultAmong around (room - 1) items
  | room + 1, .pair first second => (faultIn around room first).or (faultIn around room second)
  | room + 1, .map entries => faultInEntries around room entries
  | room + 1, .knot mark body =>
    if around.contains mark then none else faultIn (mark :: around) (room + 1) body
  | _ + 1, _ => none

def faultAmong (around : List Nat) (room : Nat) : List Value → Option Fault
  | [] => none
  | v :: vs => (faultIn around room v).or (faultAmong around room vs)

def faultInEntry (around : List Nat) (room : Nat) : Value × Value → Option Fault
  | (key, value) => (faultIn around room key).or (faultIn around room value)

def faultInEntries (around : List Nat) (room : Nat) : List (Value × Value) → Option Fault
  | [] => none
  | e :: es => (faultInEntry around room e).or (faultInEntries around room es)

end

/-- Why a value cannot be written; none if it can. -/
def writingFault? (v : Value) : Option Fault := faultIn [] depthLimit v

def show? (v : Value) : Except Fault String :=
  match v.writingFault? with
  | some fault => .error fault
  | none => .ok v.shown

def quote? (v : Value) : Except Fault String :=
  match v.writingFault? with
  | some fault => .error fault
  | none => .ok v.quote

end Rollout.Value
