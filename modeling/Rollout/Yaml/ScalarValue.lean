import Rollout.Text.Base64
import Rollout.Text.Lower
import Rollout.Value
import Rollout.Value.Fault
import Rollout.Yaml.Plain
import Rollout.Yaml.Token

/-!
The values that scalars stand for.

Underscores in numbers are dropped before they are read. A number with colons is sexagesimal: each
part counts sixty times the part behind it.
-/

set_option autoImplicit false
set_option relaxedAutoImplicit false

namespace Rollout.Yaml

open Number (Binary64)

namespace Scalar

open Text (Codes)

def code (c : Char) : Nat := c.toNat

def dropLines (codes : Codes) : Codes := codes.filter (· != code '_')

/-- Cut a sign, and tell whether it was a minus; there must be a character. -/
def signed (codes : Codes) : Except Value.Fault (Bool × Codes) :=
  match codes with
  | [] => .error .emptyNumeral
  | first :: rest =>
    if first == code '-' then .ok (true, rest)
    else if first == code '+' then .ok (false, rest)
    else .ok (false, codes)

/-- Read a whole numeral of a base. A half of a pair is no part of one. -/
def wholeOf (base : Nat) (codes : Codes) : Except Value.Fault Int :=
  match Number.readWhole base codes.text with
  | .ok i => .ok i
  | .error (.tooLong digits) => .error (.tooLongToRead digits)
  | .error .malformed => .error (.notWhole base codes)

def intOf (codes : Codes) : Except Value.Fault Int := do
  let (negative, body) ← signed (dropLines codes)
  let magnitude ←
    match body.cut? "0b", body.cut? "0x", body.cut? "0" with
    | some rest, _, _ => wholeOf 2 rest
    | _, some rest, _ => wholeOf 16 rest
    | _, _, some rest => if rest.isEmpty then pure 0 else wholeOf 8 body
    | _, _, _ =>
      if body.isEmpty then throw .emptyNumeral
      else if body.contains (code ':') then do
        let parts ← (Text.pieces (code ':') body).mapM (wholeOf 10)
        pure (parts.foldl (fun n part => n * 60 + part) 0)
      else wholeOf 10 body
  return if negative then -magnitude else magnitude

def decimalOf (codes : Codes) : Except Value.Fault Binary64 :=
  match Number.decimal? codes.text with
  | some x => .ok x
  | none => .error (.notDecimal codes)

/-- The sum of sexagesimal parts, the last first, each rounded where it is scaled and added. -/
def sexagesimal : Nat → Binary64 → List Binary64 → Except Value.Fault Binary64
  | _, sum, [] => .ok sum
  | scale, sum, part :: rest =>
    match (Binary64.ofInt? scale).bind Binary64.toInt? with
    | some rounded => sexagesimal (scale * 60) (sum.add (part.scaleBy rounded.toNat)) rest
    | none => .error .overflow

def isNan (codes : Codes) : Bool :=
  match signed (dropLines codes).lower with
  | .ok (_, body) => body == Codes.ofText ".nan"
  | .error _ => false

def floatOf (codes : Codes) : Except Value.Fault Binary64 := do
  let (negative, body) ← signed (dropLines codes).lower
  if body == Codes.ofText ".inf" then return .infinite negative
  if isNan codes then return .nan
  let magnitude ←
    if body.contains (code ':') then do
      let parts ← (Text.pieces (code ':') body).mapM decimalOf
      sexagesimal 1 (.zero false) parts.reverse
    else decimalOf body
  return if negative then magnitude.neg else magnitude

def boolOf (codes : Codes) : Except Value.Fault Bool :=
  let word := codes.lower.text
  if word == "yes" || word == "true" || word == "on" then .ok true
  else if word == "no" || word == "false" || word == "off" then .ok false
  else .error (.notTruth word)

def natOf (cs : List Char) : Nat := cs.foldl (fun n c => n * 10 + (c.toNat - '0'.toNat)) 0

def offsetOf : Option (Option (Char × List Char × List Char)) →
    Except Value.Fault (Option Int)
  | none => .ok none
  | some none => .ok (some 0)
  | some (some (sign, hour, minute)) =>
    let span : Int := (natOf hour * 60 + natOf minute) * 60
    let offset := if sign == '-' then -span else span
    if offset.natAbs < 86400 then .ok (some offset) else .error (.calendar (.offset offset))

def momentOf (cs : List Char) : Except Value.Fault Value := do
  let body := if cs.getLast? = some '\n' then cs.dropLast else cs
  let some stamp := Plain.stamp? body | throw .notMoment
  let year := natOf stamp.year
  let month := natOf stamp.month
  let day := natOf stamp.day
  match stamp.time with
  | none => return .date (← (Calendar.date? year month day).mapError .calendar)
  | some (hour, minute, second) =>
    let offset ← offsetOf stamp.zone
    let micro := stamp.fraction.take 6
    let padded := micro ++ List.replicate (6 - micro.length) '0'
    let moment ← (Calendar.moment? year month day (natOf hour) (natOf minute) (natOf second)
      (natOf padded) offset).mapError .calendar
    return .moment moment

def bytesOf (cs : List Char) : Except Fault (List UInt8) :=
  if cs.all (·.toNat < 128) then
    match Text.Base64.decode cs with
    | some bytes => .ok bytes
    | none => .error .malformed
  else .error .malformed

/-- The value of a scalar of a kind. Kinds of collections have no scalars. -/
def value (kind : Kind) (codes : Codes) : Except Fault Value :=
  match kind, codes.chars? with
  | .null, _ => .ok .null
  | .bool, _ => ((boolOf codes).map .bool).mapError .value
  | .int, _ => ((intOf codes).map .int).mapError .value
  | .float, _ => ((floatOf codes).map .float).mapError .value
  | .text, some cs => .ok (.text (String.ofList cs))
  | .text, none => .ok (.codes codes)
  | .binary, some cs => (bytesOf cs).map .bytes
  | .moment, some cs => (momentOf cs).mapError .value
  | .moment, none => .error (.value .notMoment)
  | _, _ => .error .malformed

end Scalar

end Rollout.Yaml
