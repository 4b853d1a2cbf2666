import Rollout.Number.Decimal

/-!
Numbers as figures: a sign, a mark and a body.

A letter says how a number is written: whole numbers in bases two, eight, ten and sixteen, and all
numbers with fixed places, with an exponent or in the general form. The capital letters write
capitals. The mark, which tells the base, may be left out.
-/

set_option autoImplicit false
set_option relaxedAutoImplicit false

namespace Rollout.Number

structure Figure where
  negative : Bool
  mark : List Char
  body : List Char
  deriving DecidableEq, Repr

namespace Figure

def base? (letter : Char) : Option Nat :=
  if letter == 'd' then some 10
  else if letter == 'x' || letter == 'X' then some 16
  else if letter == 'o' then some 8
  else if letter == 'b' then some 2
  else none

def cased (letter : Char) (cs : List Char) : List Char :=
  if letter.isUpper then cs.map Char.toUpper else cs

def ofInt? (letter : Char) (marked : Bool) (least : Nat) (i : Int) : Option Figure :=
  (base? letter).map fun base =>
    let mark := if marked && base != 10 then ['0', letter] else []
    ⟨i < 0, mark, padDigits least (cased letter (Nat.toDigits base i.natAbs))⟩

/-- How many places or digits are written where no number is given. -/
def usualPlaces : Nat := 6

def bodyOf? (letter : Char) (keepPoint : Bool) (places mantissa scale : Nat) : Option (List Char) :=
  let small := letter.toLower
  if small == 'f' then some (Binary64.fixed places keepPoint mantissa scale)
  else if small == 'e' then some (Binary64.scientific places keepPoint mantissa scale)
  else if small == 'g' then
    some (Binary64.general places (max places 1 : Nat) keepPoint mantissa scale)
  else none

def ofFloat? (letter : Char) (keepPoint : Bool) (places : Nat) (x : Binary64) : Option Figure :=
  match x with
  | .nan => some ⟨false, [], cased letter "nan".toList⟩
  | .infinite negative => some ⟨negative, [], cased letter "inf".toList⟩
  | .finite negative mantissa scale =>
    (bodyOf? letter keepPoint places mantissa scale).map fun body =>
      ⟨negative, [], cased letter body⟩

def ofShortest (x : Binary64) : Figure :=
  match x.toText.toList with
  | '-' :: body => ⟨true, [], body⟩
  | body => ⟨false, [], body⟩

/-- A number of some digits in a form that always shows that it is no whole number. -/
def ofRounded (digits : Nat) (keepPoint : Bool) (x : Binary64) : Figure :=
  match x with
  | .finite negative mantissa scale =>
    let limit : Int := (max digits 1 : Nat) - 1
    let body := Binary64.general digits limit keepPoint mantissa scale
    let isShort := body.all Char.isDigit
    ⟨negative, [], if isShort then body ++ ['.', '0'] else body⟩
  | x => ofShortest x

example : (ofInt? 'o' true 0 20).map (fun f => f.mark ++ f.body) = some "0o24".toList := by
  decide +kernel

end Figure

end Rollout.Number
