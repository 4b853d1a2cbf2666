import Rollout.Number.Shortest

/-!
Decimal text of a given precision.

A magnitude is written with a fixed number of places, with one digit before the point and an
exponent, or in the general form, which takes the one or the other by the size of the number and
drops zeros at the end. The exact value is rounded, a tie going to the even digit.
-/

set_option autoImplicit false
set_option relaxedAutoImplicit false

namespace Rollout.Number

def padDigits (width : Nat) (digits : List Char) : List Char :=
  List.replicate (width - digits.length) '0' ++ digits

/-- A whole part and the digits behind the point; the point is kept where it is asked for. -/
def joinPoint (keepPoint : Bool) (whole fraction : List Char) : List Char :=
  if fraction.isEmpty then whole ++ (if keepPoint then ['.'] else []) else whole ++ '.' :: fraction

def dropZeros (digits : List Char) : List Char := (digits.reverse.dropWhile (· == '0')).reverse

def exponentMark (exponent : Int) : List Char :=
  'e' :: (if exponent < 0 then '-' else '+') :: padDigits 2 (Nat.toDigits 10 exponent.natAbs)

namespace Binary64

def fixed (places : Nat) (keepPoint : Bool) (mantissa scale : Nat) : List Char :=
  let n := roundDiv (mantissa * Nat.pow 2 scale * Nat.pow 10 places) leastInOne
  let digits := padDigits (places + 1) (Nat.toDigits 10 n)
  let cut := digits.length - places
  joinPoint keepPoint (digits.take cut) (digits.drop cut)

/-- The first digits of a magnitude, so many as are asked for, and the exponent of the first. -/
def significant (count : Nat) (mantissa scale : Nat) : List Char × Int :=
  if mantissa = 0 then (List.replicate count '0', 0)
  else
    let top := leading mantissa scale
    let unit : Int := top + 1 - count
    let n := mantissa * Nat.pow 2 scale
    let rounded :=
      if unit ≥ 0 then roundDiv n (leastInOne * Nat.pow 10 unit.toNat)
      else roundDiv (n * Nat.pow 10 (-unit).toNat) leastInOne
    let digits := Nat.toDigits 10 rounded
    if digits.length > count then (digits.take count, top + 1) else (digits, top)

/-- A magnitude with one digit before the point, a number of places and an exponent. -/
def scientific (places : Nat) (keepPoint : Bool) (mantissa scale : Nat) : List Char :=
  let (digits, top) := significant (places + 1) mantissa scale
  joinPoint keepPoint (digits.take 1) (digits.drop 1) ++ exponentMark top

/-- A magnitude in the general form, with a number of digits. Exponents from `limit` on are written
out; zeros at the end are kept where the point is. -/
def general (count : Nat) (limit : Int) (keepPoint : Bool) (mantissa scale : Nat) : List Char :=
  let count := max count 1
  let (digits, top) := significant count mantissa scale
  let kept (fraction : List Char) : List Char :=
    if keepPoint then fraction else dropZeros fraction
  if top < -4 || limit ≤ top then
    joinPoint keepPoint (digits.take 1) (kept (digits.drop 1)) ++ exponentMark top
  else if top < 0 then
    joinPoint keepPoint ['0'] (kept (List.replicate (-top - 1).toNat '0' ++ digits))
  else
    let cut := top.toNat + 1
    joinPoint keepPoint (digits.take cut) (kept (digits.drop cut))

example : String.ofList (fixed 2 false 5 1074) = "5.00" := by decide +kernel

example : String.ofList (scientific 3 false 20 1074) = "2.000e+01" := by decide +kernel

example : String.ofList (general 6 6 false 20 1074) = "20" := by decide +kernel

end Binary64

end Rollout.Number
