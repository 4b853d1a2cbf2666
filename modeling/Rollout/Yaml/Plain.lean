import Rollout.Text.Digit
import Rollout.Text.Pieces

/-!
What a plain scalar stands for.

The kind of a plain scalar follows from its form alone: words of truth, whole numbers of five
notations, decimal numbers, dates and moments, null, and the two marks that only keys may use. A
scalar of no such form is a text.
-/

set_option autoImplicit false
set_option relaxedAutoImplicit false

namespace Rollout.Yaml

inductive Kind
  | null
  | bool
  | int
  | float
  | text
  | binary
  | moment
  | sequence
  | mapping
  | set
  | omap
  | pairs
  | merge
  | value
  | unknown
  deriving DecidableEq, Repr

namespace Plain

/-- The characters of a number's digits: they may be grouped by underscores. -/
def isDigitOrLine (c : Char) : Bool := c.isDigit || c == '_'

def dropSign : List Char → List Char
  | '-' :: rest => rest
  | '+' :: rest => rest
  | cs => cs

def isDigits (cs : List Char) : Bool := !cs.isEmpty && cs.all Char.isDigit

/-- A part of a sexagesimal number behind its first: one or two digits below sixty. -/
def isSixtieth : List Char → Bool
  | [a] => a.isDigit
  | [a, b] => '0' ≤ a && a ≤ '5' && b.isDigit
  | _ => false

def truths : List String :=
  ["yes", "Yes", "YES", "no", "No", "NO", "true", "True", "TRUE", "false", "False", "FALSE",
   "on", "On", "ON", "off", "Off", "OFF"]

/-- Whether a text is a whole number without sign, in binary, octal, decimal, hexadecimal or
sexagesimal notation. -/
def isUnsignedInt : List Char → Bool
  | '0' :: 'b' :: rest => !rest.isEmpty && rest.all fun c => c == '0' || c == '1' || c == '_'
  | '0' :: 'x' :: rest =>
    !rest.isEmpty && rest.all fun c =>
      c.isDigit || ('a' ≤ c && c ≤ 'f') || ('A' ≤ c && c ≤ 'F') || c == '_'
  | '0' :: rest => rest.all fun c => ('0' ≤ c && c ≤ '7') || c == '_'
  | c :: rest =>
    c.isDigit &&
      match Text.pieces ':' rest with
      | first :: others => first.all isDigitOrLine && others.all isSixtieth
      | [] => false
  | [] => false

def isExponent : List Char → Bool
  | [] => true
  | mark :: sign :: digits =>
    (mark == 'e' || mark == 'E') && (sign == '+' || sign == '-') && isDigits digits
  | _ => false

/-- Whether a text is a fraction's digits with an exponent behind them. -/
def isFraction (cs : List Char) : Bool := isExponent (cs.dropWhile isDigitOrLine)

/-- Whether a text is a decimal number. A number that starts with its point has no sign. -/
def isFloat (cs : List Char) : Bool :=
  let unsigned := dropSign cs
  match unsigned with
  | '.' :: rest =>
    let name := String.ofList rest
    if name == "inf" || name == "Inf" || name == "INF" then true
    else if unsigned != cs then false
    else name == "nan" || name == "NaN" || name == "NAN" ||
      (rest.head?.any Char.isDigit && isFraction rest)
  | c :: _ =>
    c.isDigit &&
      let whole := unsigned.takeWhile (· != '.')
      match unsigned.drop whole.length with
      | '.' :: rest =>
        match Text.pieces ':' whole with
        | [first] => first.all isDigitOrLine && isFraction rest
        | first :: others =>
          first.all isDigitOrLine && others.all isSixtieth && rest.all isDigitOrLine
        | [] => false
      | _ => false
  | [] => false

structure Stamp where
  year : List Char
  month : List Char
  day : List Char
  time : Option (List Char × List Char × List Char)
  fraction : List Char
  zone : Option (Option (Char × List Char × List Char))

def digits? (least most : Nat) (cs : List Char) : Option (List Char × List Char) :=
  let run := (cs.take most).takeWhile Char.isDigit
  if run.length < least then none else some (run, cs.drop run.length)

def char? (c : Char) : List Char → Option (List Char)
  | d :: rest => if c == d then some rest else none
  | [] => none

def isBlank (c : Char) : Bool := c == ' ' || c == '\t'

def zone? (cs : List Char) : Option (Option (Option (Char × List Char × List Char))) :=
  match cs, cs.dropWhile isBlank with
  | [], _ => some none
  | _, ['Z'] => some (some none)
  | _, sign :: rest =>
    if sign == '+' || sign == '-' then do
      let (hour, rest) ← digits? 1 2 rest
      match rest with
      | [] => some (some (some (sign, hour, [])))
      | _ => do
        let (minute, rest) ← digits? 2 2 (← char? ':' rest)
        if rest.isEmpty then some (some (some (sign, hour, minute))) else none
    else none
  | _, [] => none

def time? (year month day cs : List Char) : Option Stamp := do
  let rest ←
    match cs with
    | 'T' :: rest => some rest
    | 't' :: rest => some rest
    | c :: rest => if isBlank c then some (rest.dropWhile isBlank) else none
    | [] => none
  let (hour, rest) ← digits? 1 2 rest
  let (minute, rest) ← digits? 2 2 (← char? ':' rest)
  let (second, rest) ← digits? 2 2 (← char? ':' rest)
  let (fraction, rest) :=
    match rest with
    | '.' :: rest => (rest.takeWhile Char.isDigit, rest.dropWhile Char.isDigit)
    | _ => ([], rest)
  let zone ← zone? rest
  return ⟨year, month, day, some (hour, minute, second), fraction, zone⟩

def stamp? (cs : List Char) : Option Stamp := do
  let (year, rest) ← digits? 4 4 cs
  let (month, rest) ← digits? 1 2 (← char? '-' rest)
  let (day, rest) ← digits? 1 2 (← char? '-' rest)
  match rest with
  | [] => return ⟨year, month, day, none, [], none⟩
  | _ => time? year month day rest

/-- Whether a text stands for a date or a moment; a date alone has all its digits. -/
def isMoment (cs : List Char) : Bool :=
  match stamp? cs with
  | some stamp => stamp.time.isSome || cs.length == 10
  | none => false

def kindOf (cs : List Char) : Kind :=
  let s := String.ofList cs
  if truths.contains s then .bool
  else if isFloat cs then .float
  else if isUnsignedInt (dropSign cs) then .int
  else if s == "<<" then .merge
  else if s == "" || s == "~" || s == "null" || s == "Null" || s == "NULL" then .null
  else if isMoment cs then .moment
  else if s == "=" then .value
  else if s == "!" || s == "&" || s == "*" then .unknown
  else .text

/-- The kind of a plain scalar. A line end behind a form other than nothing does not change it. -/
def kind (cs : List Char) : Kind :=
  match cs.getLast? with
  | some '\n' => if cs.length = 1 then .text else kindOf cs.dropLast
  | _ => kindOf cs

example : kind "010".toList = .int ∧ kind "08".toList = .text ∧ kind "1:30".toList = .int ∧
    kind "0o7".toList = .text := by decide +kernel

example : kind "1.5".toList = .float ∧ kind "1e3".toList = .text ∧ kind "1.e+3".toList = .float ∧
    kind "-.5".toList = .text ∧ kind "1:30.5".toList = .float := by decide +kernel

example : kind "2024-01-02".toList = .moment ∧ kind "2024-1-2".toList = .text ∧
    kind "2024-1-2 3:04:05".toList = .moment := by decide +kernel

end Plain

end Rollout.Yaml
