/-!
Binary floating-point numbers with 53 significant bits.

A finite number is a sign and a magnitude `mantissa * 2 ^ scale / 2 ^ 1074`, so that every finite
magnitude is a natural number of the least positive one. Results are the exact values rounded to
the nearest number, a tie going to the even mantissa; all arithmetic is exact arithmetic on natural
numbers followed by one rounding.
-/

set_option autoImplicit false
set_option relaxedAutoImplicit false

namespace Rollout.Number

inductive Binary64
  | nan
  | infinite (negative : Bool)
  | finite (negative : Bool) (mantissa scale : Nat)
  deriving DecidableEq, Repr, Inhabited

namespace Binary64

def fractionBits : Nat := 52

def maxScale : Nat := 2045

def leastInOne : Nat := Nat.pow 2 1074

def roundDiv (n d : Nat) : Nat :=
  let q := n / d
  let twice := 2 * (n % d)
  if twice > d || (twice == d && q % 2 == 1) then q + 1 else q

def zero (negative : Bool) : Binary64 := .finite negative 0 0

/-- The least scale at which `n / d`, counted in the least positive numbers, has no more than 53
bits before rounding. -/
def scaleOf (n d : Nat) : Nat :=
  let guess := n.log2 - d.log2 - fractionBits
  if guess = 0 then 0
  else if n < d * Nat.pow 2 (guess + fractionBits) then guess - 1
  else guess

def ofLeast (negative : Bool) (n d : Nat) : Binary64 :=
  let scale := scaleOf n d
  let mantissa := roundDiv n (d * Nat.pow 2 scale)
  let (mantissa, scale) :=
    if mantissa = Nat.pow 2 (fractionBits + 1) then (Nat.pow 2 fractionBits, scale + 1)
    else (mantissa, scale)
  if scale > maxScale then .infinite negative else .finite negative mantissa scale

def ofRatio (negative : Bool) (n d : Nat) : Binary64 := ofLeast negative (n * leastInOne) d

/-- The number nearest to `digits * 10 ^ exponent`. Magnitudes far outside the range are settled by
their number of digits, so that no huge power is formed. -/
def ofDecimal (negative : Bool) (digits : Nat) (exponent : Int) : Binary64 :=
  if digits = 0 then zero negative
  else
    let top := (Nat.toDigits 10 digits).length + exponent
    if top > 400 then .infinite negative
    else if top < -400 then zero negative
    else if exponent ≥ 0 then ofRatio negative (digits * Nat.pow 10 exponent.toNat) 1
    else ofRatio negative digits (Nat.pow 10 (-exponent).toNat)

/-- The number nearest to a whole number, or none where it is out of range. -/
def ofInt? (i : Int) : Option Binary64 :=
  match ofRatio (i < 0) i.natAbs 1 with
  | .finite negative mantissa scale => some (.finite (negative && mantissa != 0) mantissa scale)
  | _ => none

def least (negative : Bool) (mantissa scale : Nat) : Int :=
  let n : Int := mantissa * Nat.pow 2 scale
  if negative then -n else n

def neg : Binary64 → Binary64
  | .nan => .nan
  | .infinite negative => .infinite !negative
  | .finite negative mantissa scale => .finite (!negative) mantissa scale

def add : Binary64 → Binary64 → Binary64
  | .nan, _ | _, .nan => .nan
  | .infinite a, .infinite b => if a = b then .infinite a else .nan
  | .infinite a, _ => .infinite a
  | _, .infinite b => .infinite b
  | .finite a m p, .finite b n q =>
    let sum := least a m p + least b n q
    if sum = 0 then zero (a && b) else ofLeast (sum < 0) sum.natAbs 1

def sub (x y : Binary64) : Binary64 := add x y.neg

def scaleBy (k : Nat) : Binary64 → Binary64
  | .nan => .nan
  | .infinite a => if k = 0 then .nan else .infinite a
  | .finite a m p => if m * k = 0 then zero a else ofLeast a (m * Nat.pow 2 p * k) 1

def isNegative : Binary64 → Bool
  | .nan => false
  | .infinite negative | .finite negative _ _ => negative

def mul (x y : Binary64) : Binary64 :=
  let negative := x.isNegative != y.isNegative
  match x, y with
  | .nan, _ | _, .nan => .nan
  | .finite a m p, .finite b n q =>
    ofLeast negative ((least a m p).natAbs * (least b n q).natAbs) leastInOne
  | .finite _ m _, .infinite _ | .infinite _, .finite _ m _ =>
    if m = 0 then .nan else .infinite negative
  | .infinite _, .infinite _ => .infinite negative

def div (x y : Binary64) : Binary64 :=
  let negative := x.isNegative != y.isNegative
  match x, y with
  | .nan, _ | _, .nan | .infinite _, .infinite _ => .nan
  | .finite a m p, .finite b n q =>
    ofRatio negative (least a m p).natAbs (least b n q).natAbs
  | .finite _ _ _, .infinite _ => zero negative
  | .infinite _, .finite _ _ _ => .infinite negative

/-- Whether the number is greater than zero; not-a-number is not. -/
def isPositive : Binary64 → Bool
  | .nan => false
  | .infinite negative => !negative
  | .finite negative mantissa _ => !negative && mantissa != 0

def isZero : Binary64 → Bool
  | .finite _ 0 _ => true
  | _ => false

/-- The whole number that a finite number equals, if there is one. -/
def toInt? : Binary64 → Option Int
  | .finite negative mantissa scale =>
    let n := least negative mantissa scale
    if n % leastInOne = 0 then some (n / leastInOne) else none
  | _ => none

def truncated? : Binary64 → Option Int
  | .finite negative mantissa scale => some ((least negative mantissa scale).tdiv leastInOne)
  | _ => none

/-- Equality of values: not-a-number differs from everything, the two zeros are equal. -/
def beq : Binary64 → Binary64 → Bool
  | .nan, _ | _, .nan => false
  | .infinite a, .infinite b => a == b
  | .finite a m p, .finite b n q => least a m p == least b n q
  | _, _ => false

example : ofDecimal false 5 (-324) = .finite false 1 0 := by decide +kernel

example : ofDecimal false 1 400 = .infinite false := by decide +kernel

example : ofInt? 9007199254740993 = ofInt? 9007199254740992 := by decide +kernel

end Binary64

end Rollout.Number
