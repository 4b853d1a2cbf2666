import Rollout.Log.Field
import Rollout.Number.Figure

/-!
Layouts in the style of percent signs.

Behind a percent sign stand the name of a field in parentheses, flags, a width, a precision and a
letter. Texts are cut to the precision, whole numbers have at least so many digits. A doubled
percent sign is one.
-/

set_option autoImplicit false
set_option relaxedAutoImplicit false

namespace Rollout.Log.Percent

open Number (Binary64 Figure)

structure Shape where
  flags : List Char
  width : Nat
  precision : Option Nat
  letter : Char
  deriving DecidableEq, Repr

inductive Piece
  | char (c : Char)
  | field (name : Option String) (shape : Shape)
  deriving DecidableEq, Repr

def number? (cs : List Char) : Option Nat × List Char :=
  let digits := cs.takeWhile Char.isDigit
  let value := digits.foldl (fun n d => n * 10 + (d.toNat - '0'.toNat)) 0
  (if digits.isEmpty then none else some value, cs.drop digits.length)

def nameUpTo (depth : Nat) : List Char → Option (List Char × List Char)
  | [] => none
  | c :: rest =>
    if c == ')' then
      match depth with
      | 0 => some ([], rest)
      | depth + 1 => (nameUpTo depth rest).map fun (name, rest) => (c :: name, rest)
    else
      let depth := if c == '(' then depth + 1 else depth
      (nameUpTo depth rest).map fun (name, rest) => (c :: name, rest)

def isFlag (c : Char) : Bool := "#0+ -".toList.contains c

def field? (cs : List Char) : Option (Piece × List Char) := do
  let (name, rest) ←
    match cs with
    | '(' :: rest => (nameUpTo 0 rest).map fun (name, rest) => (some (String.ofList name), rest)
    | _ => some (none, cs)
  let flags := rest.takeWhile isFlag
  let (width, rest) := number? (rest.drop flags.length)
  let (precision, rest) :=
    match rest with
    | '.' :: rest =>
      let (precision, rest) := number? rest
      (some (precision.getD 0), rest)
    | _ => (none, rest)
  let rest :=
    match rest with
    | 'h' :: rest | 'l' :: rest | 'L' :: rest => rest
    | _ => rest
  let letter :: rest := rest | none
  if width.any (· > fieldLimit) || precision.any (· > fieldLimit) then none
  return (.field name ⟨flags, width.getD 0, precision, letter⟩, rest)

def pieces (room : Nat) (cs : List Char) : Option (List Piece) :=
  match room with
  | 0 => some []
  | room + 1 =>
    match cs with
    | [] => some []
    | '%' :: rest => do
      let (piece, rest) ← field? rest
      return piece :: (← pieces room rest)
    | c :: rest => (pieces room rest).map (.char c :: ·)

namespace Shape

def has (shape : Shape) (flag : Char) : Bool := shape.flags.contains flag

def pad (shape : Shape) (cs : List Char) : List Char :=
  let missing := List.replicate (shape.width - cs.length) ' '
  if shape.has '-' then cs ++ missing else missing ++ cs

def text (shape : Shape) (s : String) : List Char :=
  shape.pad (match shape.precision with
    | some n => s.toList.take n
    | none => s.toList)

/-- A figure, padded. Zeros stand behind its sign and its mark. -/
def figure (shape : Shape) (figure : Figure) : List Char :=
  let sign :=
    if figure.negative then ['-']
    else if shape.has '+' then ['+']
    else if shape.has ' ' then [' ']
    else []
  let start := sign ++ figure.mark
  if shape.has '0' && !shape.has '-' then
    let missing := shape.width - (start.length + figure.body.length)
    start ++ List.replicate missing '0' ++ figure.body
  else shape.pad (start ++ figure.body)

def character? (d : Datum) : Option Char :=
  match d with
  | .value (.text s) => if s.length = 1 then s.toList.head? else none
  | .value (.int i) => if i < 0 then none else Text.Codes.char? i.toNat
  | .value (.bool b) => some (Char.ofNat (if b then 1 else 0))
  | _ => none

/-- The whole number of a datum, where its part behind the point does not count. -/
def whole? (d : Datum) : Option Int :=
  match d with
  | .value (.float x) => x.truncated?
  | d => d.toInt?

/-- A datum in a shape; not every letter takes every datum. -/
def shown (shape : Shape) (wording : Wording) (d : Datum) : Option (List Char) :=
  let letter := shape.letter
  let marked := shape.has '#'
  if letter == 's' then some (shape.text (d.shown wording.kind))
  else if letter == 'r' then some (shape.text (d.quote wording.kind))
  else if letter == 'a' then some (shape.text (Text.ascii (d.quote wording.kind)))
  else if letter == 'c' then (character? d).map fun c => shape.pad [c]
  else if letter == 'd' || letter == 'i' || letter == 'u' then do
    shape.figure (← Figure.ofInt? 'd' false (shape.precision.getD 0) (← whole? d))
  else if letter == 'x' || letter == 'X' || letter == 'o' then do
    shape.figure (← Figure.ofInt? letter marked (shape.precision.getD 0) (← d.toInt?))
  else do
    let places := shape.precision.getD Figure.usualPlaces
    shape.figure (← Figure.ofFloat? letter marked places (← d.toFloat?))

end Shape

/-- The line of a layout; none where a field is missing or does not suit its letter. -/
def line? (wording : Wording) (fields : Fields) (layout : String) : Option (List Char) := do
  let parts ← (← pieces layout.length layout.toList).mapM fun
    | .char c => some [c]
    | .field name shape => do
      let datum ← name.mapM fields
      if shape.letter == '%' then some ['%'] else shape.shown wording (← datum)
  return parts.flatten

/-- Whether a text starts with a named field, behind its sign: its letter may be a capital, and its
width and its precision may be stars. -/
def startsNamed (cs : List Char) : Bool :=
  let number (cs : List Char) : Option (List Char) :=
    match cs with
    | '*' :: rest => some rest
    | _ =>
      if (cs.takeWhile Text.isDecimalDigit).isEmpty then none
      else some (cs.dropWhile Text.isDecimalDigit)
  match cs with
  | '(' :: rest =>
    let name := rest.takeWhile Text.isWordChar
    match rest.drop name.length with
    | ')' :: rest =>
      let rest := rest.dropWhile isFlag
      let rest := (number rest).getD rest
      let rest :=
        match rest with
        | '.' :: more => (number more).getD rest
        | _ => rest
      !name.isEmpty && rest.head?.any fun c => "diouxefgcrsa%".toList.contains c.toLower
    | _ => false
  | _ => false

def showsField : List Char → Bool
  | [] => false
  | c :: rest => (c == '%' && startsNamed rest) || showsField rest

end Rollout.Log.Percent
