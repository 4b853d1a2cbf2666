import Rollout.Number.Binary64
import Rollout.Text.Blank
import Rollout.Text.Digit

/-!
Numerals as users write them.

Digits of every script count, single underscores may stand between digits, and blanks may surround
the numeral. A decimal numeral is a sign, digits with at most one point, and an optional exponent,
or one of the words for infinity and not-a-number. A whole numeral is a sign and digits of a base.
-/

set_option autoImplicit false
set_option relaxedAutoImplicit false

namespace Rollout.Number

open Rollout.Text (digitValue? isBlank stripWhile)

/-- The blanks around a numeral: ASCII's separators between fields, records and files are not
among them. -/
def isNumeralBlank (c : Char) : Bool := isBlank c && !(28 ≤ c.toNat && c.toNat ≤ 31)

/-- Read digits with single underscores between them: their value, their count and the rest. The
flag tells whether an underscore may stand next. -/
def digitRun (value count : Nat) (after : Bool) : List Char → Option (Nat × Nat × List Char)
  | [] => some (value, count, [])
  | c :: rest =>
    match digitValue? c with
    | some d => digitRun (value * 10 + d) (count + 1) true rest
    | none =>
      if c == '_' then
        match rest with
        | d :: _ =>
          if after && (digitValue? d).isSome then digitRun value count false rest else none
        | [] => none
      else some (value, count, c :: rest)

def sign : List Char → Bool × List Char
  | '-' :: rest => (true, rest)
  | '+' :: rest => (false, rest)
  | cs => (false, cs)

def exponent? : List Char → Option Int
  | [] => some 0
  | c :: rest =>
    if c == 'e' || c == 'E' then
      let (negative, digits) := sign rest
      match digitRun 0 0 false digits with
      | some (value, count, []) =>
        if count = 0 then none else some (if negative then -(value : Int) else value)
      | _ => none
    else none

def magnitude? (negative : Bool) (cs : List Char) : Option Binary64 := do
  let (whole, count, rest) ← digitRun 0 0 false cs
  let (value, places, rest) ←
    match rest with
    | '.' :: rest =>
      let (value, total, rest) ← digitRun whole count false rest
      some (value, total - count, rest)
    | _ => some (whole, 0, rest)
  if count + places = 0 then none
  let exponent ← exponent? rest
  return .ofDecimal negative value (exponent - places)

def decimal? (s : String) : Option Binary64 :=
  let (negative, body) := sign (stripWhile isNumeralBlank s.toList)
  let word := String.ofList (body.map Char.toLower)
  if word == "inf" || word == "infinity" then some (.infinite negative)
  else if word == "nan" then some .nan
  else magnitude? negative body

def digitIn? (base : Nat) (c : Char) : Option Nat :=
  let value? :=
    match digitValue? c with
    | some d => some d
    | none =>
      if c.isAlpha then some (c.toLower.toNat - 'a'.toNat + 10) else none
  value?.filter (· < base)

/-- Read digits of a base with single underscores between them: their value, their count and the
rest. The flag tells whether an underscore may stand next. -/
private def wholeRun (base value count : Nat) (after : Bool) :
    List Char → Option (Nat × Nat × List Char)
  | [] => if after then some (value, count, []) else none
  | c :: rest =>
    if c == '_' then if after then wholeRun base value count false rest else none
    else match digitIn? base c with
      | some d => wholeRun base (value * base + d) (count + 1) true rest
      | none => if after then some (value, count, c :: rest) else none

/-- Why a text is no whole numeral. -/
inductive WholeFault
  | tooLong (digits : Nat)
  | malformed
  deriving DecidableEq, Repr

/-- Cut the mark of the base, which may stand before its digits. -/
def dropBaseMark (base : Nat) : List Char → List Char
  | '0' :: mark :: rest =>
    let m := mark.toLower
    if (base == 2 && m == 'b') || (base == 8 && m == 'o') || (base == 16 && m == 'x') then rest
    else '0' :: mark :: rest
  | cs => cs

/-- The most digits that a whole number may have when it is read from or written as decimal
text. -/
def digitLimit : Nat := 4300

def readWholeUpTo (limit : Option Nat) (base : Nat) (s : String) : Except WholeFault Int :=
  let (negative, body) := sign (stripWhile isNumeralBlank s.toList)
  match wholeRun base 0 0 false (dropBaseMark base body) with
  | none => .error .malformed
  | some (value, count, rest) =>
    if limit.any (· < count) then .error (.tooLong count)
    else if rest.isEmpty then .ok (if negative then -(value : Int) else value)
    else .error .malformed

/-- Read the whole number that a text names in a base. Decimal ones have a limited number of
digits. -/
def readWhole (base : Nat) (s : String) : Except WholeFault Int :=
  readWholeUpTo (if base = 10 then some digitLimit else none) base s

/-- The whole number of any length that a text names in a base, if it names one. -/
def whole? (base : Nat) (s : String) : Option Int := (readWholeUpTo none base s).toOption

def digitCount (i : Int) : Nat := (Nat.toDigits 10 i.natAbs).length

def isOversized (i : Int) : Bool := i.natAbs.log2 ≥ 14281 && digitCount i > digitLimit

example : decimal? " 1_0.5e1 " = decimal? "105" := by decide +kernel

example : decimal? "1__0" = none ∧ decimal? "." = none ∧ decimal? "e5" = none := by decide +kernel

example : whole? 10 "-07" = some (-7) ∧ whole? 8 "08" = none := by decide +kernel

end Rollout.Number
