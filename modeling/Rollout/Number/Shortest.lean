import Rollout.Number.Binary64

/-!
Decimal text of floating-point numbers.

The shortest text of a number has the fewest significant digits that read back as the same number,
and of those the nearest. Its layout is positional for exponents from -4 to 15 and scientific
beyond, with a decimal point or an exponent always shown. Text with a fixed number of places rounds
the exact value, a tie going to the even digit.
-/

set_option autoImplicit false
set_option relaxedAutoImplicit false

namespace Rollout.Number

namespace Binary64

/-- The numbers that round to `mantissa * 2 ^ scale`, in quarters of the unit `2 ^ scale`: the
lower end, the value, the upper end, and whether the ends belong. -/
structure Basin where
  low : Nat
  mid : Nat
  high : Nat
  closed : Bool

/-- The basin of a magnitude. Below a power of two the numbers stand twice as close. -/
def basin (mantissa scale : Nat) : Basin where
  low := 4 * mantissa - if mantissa = Nat.pow 2 fractionBits ∧ scale ≠ 0 then 1 else 2
  mid := 4 * mantissa
  high := 4 * mantissa + 2
  closed := mantissa % 2 == 0

def Basin.holds (b : Basin) (n d candidate : Nat) : Bool :=
  let x := candidate * n
  if b.closed then b.low * d ≤ x && x ≤ b.high * d else b.low * d < x && x < b.high * d

/-- The decimal grid point of the basin next to its value, the grid's unit being `n / d` quarters:
the nearer of the two neighbours, a tie going to the even one. -/
def Basin.nearest? (b : Basin) (n d : Nat) : Option Nat :=
  let below := b.mid * d / n
  let above := below + 1
  match b.holds n d below, b.holds n d above with
  | false, false => none
  | true, false => some below
  | false, true => some above
  | true, true =>
    let left := b.mid * d - below * n
    let right := above * n - b.mid * d
    if left < right || (left == right && below % 2 == 0) then some below else some above

def unit (scale : Nat) (exponent : Int) : Nat × Nat :=
  let n := 4 * leastInOne
  if exponent ≥ 0 then (n * Nat.pow 10 exponent.toNat, Nat.pow 2 scale)
  else (n, Nat.pow 2 scale * Nat.pow 10 (-exponent).toNat)

def leading (mantissa scale : Nat) : Int :=
  let n := mantissa * Nat.pow 2 scale
  let whole := n / leastInOne
  if whole ≠ 0 then (Nat.toDigits 10 whole).length - 1
  else
    let scaled := n * Nat.pow 10 400 / leastInOne
    (Nat.toDigits 10 scaled).length - 1 - 400

def shortest (mantissa scale : Nat) : Nat × Int :=
  let b := basin mantissa scale
  let top := leading mantissa scale
  let fit (count : Nat) : Option (Nat × Int) :=
    let exponent := top + 1 - count
    let (n, d) := unit scale exponent
    (b.nearest? n d).map (·, exponent)
  ((List.range 17).findSome? fun k => fit (k + 1)).getD (0, 0)

/-- The layout of significant digits whose first stands for `10 ^ top`. -/
def layout (digits : List Char) (top : Int) : List Char :=
  if -4 ≤ top ∧ top < 16 then
    if top < 0 then
      '0' :: '.' :: List.replicate (-top - 1).toNat '0' ++ digits
    else
      let whole := top.toNat + 1
      let padded := digits ++ List.replicate (whole - digits.length) '0'
      let fraction := padded.drop whole
      padded.take whole ++ '.' :: (if fraction.isEmpty then ['0'] else fraction)
  else
    let exponent := Nat.toDigits 10 top.natAbs
    let padded := if exponent.length < 2 then '0' :: exponent else exponent
    let fraction := if digits.length ≤ 1 then [] else '.' :: digits.drop 1
    digits.take 1 ++ fraction ++ 'e' :: (if top < 0 then '-' else '+') :: padded

def toText : Binary64 → String
  | .nan => "nan"
  | .infinite negative => if negative then "-inf" else "inf"
  | .finite negative mantissa scale =>
    let body :=
      if mantissa = 0 then ['0', '.', '0']
      else
        let (digits, exponent) := shortest mantissa scale
        let shown := Nat.toDigits 10 digits
        let kept := (shown.reverse.dropWhile (· == '0')).reverse
        layout kept (shown.length - 1 + exponent)
    String.ofList (if negative then '-' :: body else body)

def toHundredths : Binary64 → String
  | .nan => "nan"
  | .infinite negative => if negative then "-inf" else "inf"
  | .finite negative mantissa scale =>
    let n := roundDiv (mantissa * Nat.pow 2 scale * 100) leastInOne
    let digits := Nat.toDigits 10 n
    let padded := List.replicate (3 - digits.length) '0' ++ digits
    let whole := padded.take (padded.length - 2)
    let body := whole ++ '.' :: padded.drop (padded.length - 2)
    String.ofList (if negative then '-' :: body else body)

example : (ofDecimal false 1 (-1)).toText = "0.1" := by decide +kernel

example : (ofDecimal false 5 (-324)).toText = "5e-324" := by decide +kernel

example : (ofDecimal false 1 16).toText = "1e+16" := by decide +kernel

example : (ofDecimal true 125 (-3)).toHundredths = "-0.12" := by decide +kernel

end Binary64

end Rollout.Number
