import Rollout.Log.Field
import Rollout.Number.Figure

/-!
Shapes of fields in the style of braces.

A shape gives, in this order and each part only where it is wanted: a character to fill up with and
an alignment, the treatment of signs, a number sign for marks, a zero, a width, a separator of
groups of digits, a precision and a letter. Texts stand on the left and numbers on the right where
nothing else is said; a zero puts zeros between the sign of a number and its digits.
-/

set_option autoImplicit false
set_option relaxedAutoImplicit false

namespace Rollout.Log

open Number (Binary64 Figure)

inductive Align
  | left
  | right
  | center
  | apart
  deriving DecidableEq, Repr

def Align.ofChar? (c : Char) : Option Align :=
  if c == '<' then some .left
  else if c == '>' then some .right
  else if c == '^' then some .center
  else if c == '=' then some .apart
  else none

structure Shape where
  fill : Option Char
  align : Option Align
  sign : Option Char
  marked : Bool
  zero : Bool
  width : Nat
  separator : Option Char
  precision : Option Nat
  letter : Option Char
  deriving DecidableEq, Repr

namespace Shape

def oneOf (choices : String) : List Char → Option Char × List Char
  | c :: rest => if choices.toList.contains c then (some c, rest) else (none, c :: rest)
  | [] => (none, [])

def number? (cs : List Char) : Option Nat × List Char :=
  let digits := cs.takeWhile Text.isDecimalDigit
  let value := (digits.filterMap Text.digitValue?).foldl (fun n d => n * 10 + d) 0
  (if digits.isEmpty then none else some value, cs.drop digits.length)

def alignment (cs : List Char) : Option Char × Option Align × List Char :=
  match cs with
  | fill :: mark :: rest =>
    match Align.ofChar? mark, Align.ofChar? fill with
    | some align, _ => (some fill, some align, rest)
    | none, some align => (none, some align, mark :: rest)
    | none, none => (none, none, cs)
  | [mark] =>
    match Align.ofChar? mark with
    | some align => (none, some align, [])
    | none => (none, none, cs)
  | [] => (none, none, [])

def precisionLimit : Nat := 9223372036854775807

def ofChars? (cs : List Char) : Option Shape := do
  let (fill, align, rest) := alignment cs
  let (sign, rest) := oneOf "+- " rest
  let (mark, rest) := oneOf "#" rest
  let (zero, rest) := if fill.isNone then oneOf "0" rest else (none, rest)
  let (width, rest) := number? rest
  let (separator, rest) := oneOf ",_" rest
  let (precision, rest) ←
    match rest with
    | '.' :: rest =>
      let (precision, rest) := number? rest
      if precision.isNone then none else some (precision, rest)
    | _ => some (none, rest)
  let letter ←
    match rest with
    | [] => some none
    | [letter] => some (some letter)
    | _ => none
  if width.any (· > fieldLimit) || precision.any (· > precisionLimit) then none
  return {
    fill := fill
    align := align
    sign := sign
    marked := mark.isSome
    zero := zero.isSome
    width := width.getD 0
    separator := separator
    precision := precision
    letter := letter }

def filler (shape : Shape) : Char := shape.fill.getD (if shape.zero then '0' else ' ')

def pad (shape : Shape) (align : Align) (start cs : List Char) : List Char :=
  let missing := shape.width - (start.length + cs.length)
  let filled (n : Nat) : List Char := List.replicate n shape.filler
  match align with
  | .left => start ++ cs ++ filled missing
  | .right => filled missing ++ start ++ cs
  | .center => filled (missing / 2) ++ start ++ cs ++ filled (missing - missing / 2)
  | .apart => start ++ filled missing ++ cs

def text? (shape : Shape) (s : String) : Option (List Char) :=
  let plain := shape.sign.isNone && !shape.marked && shape.separator.isNone &&
    shape.align != some .apart && (shape.letter.getD 's') == 's'
  if plain then
    let cs := match shape.precision with
      | some n => s.toList.take n
      | none => s.toList
    some (shape.pad (shape.align.getD .left) [] cs)
  else none

/-- Digits from the last one on, with separators between groups of a size and with zeros up to a
width. -/
def group (size : Nat) (separator : Char) (room : Nat) (least : Int) (digits : List Char) :
    List Char :=
  match room with
  | 0 => digits
  | room + 1 =>
    let count := min size (max (max digits.length least.toNat) 1)
    let here := digits.take count
    let zeros := List.replicate (count - here.length) '0'
    let left : Int := least - count
    let rest := digits.drop count
    if rest.isEmpty && left ≤ 0 then here ++ zeros
    else here ++ zeros ++ separator :: group size separator room (left - 1) rest

def figure (shape : Shape) (figure : Figure) : List Char :=
  let sign :=
    if figure.negative then ['-']
    else match shape.sign with
      | some '+' => ['+']
      | some ' ' => [' ']
      | _ => []
  let start := sign ++ figure.mark
  let align := shape.align.getD (if shape.zero then .apart else .right)
  let digits := figure.body.takeWhile Char.isAlphanum
  let body :=
    match shape.separator with
    | none => figure.body
    | some separator =>
      let isDecimal := (shape.letter.all fun letter => !"boxX".toList.contains letter)
      let digits := if isDecimal then figure.body.takeWhile Char.isDigit else digits
      let rest := figure.body.drop digits.length
      let least : Int :=
        if align = .apart && shape.filler = '0' then
          (shape.width : Int) - (start.length + rest.length)
        else 0
      if digits.isEmpty then figure.body
      else
        let room := digits.length + shape.width + 1
        (group (if isDecimal then 3 else 4) separator room least digits.reverse).reverse ++ rest
  shape.pad align start body

/-- A number with a part behind the point, in a shape. -/
def float? (shape : Shape) (x : Binary64) : Option (List Char) :=
  if shape.precision.any (· > fieldLimit) then none
  else match shape.letter, shape.precision with
  | none, none => some (shape.figure (.ofShortest x))
  | none, some digits => some (shape.figure (.ofRounded digits shape.marked x))
  | some '%', precision =>
    (Figure.ofFloat? 'f' shape.marked (precision.getD Figure.usualPlaces) (x.scaleBy 100)).map
      fun figure => shape.figure { figure with body := figure.body ++ ['%'] }
  | some letter, precision =>
    let letter := if letter == 'n' then 'g' else letter
    (Figure.ofFloat? letter shape.marked (precision.getD Figure.usualPlaces) x).map shape.figure

def allows (shape : Shape) (letter : Char) : Bool :=
  match shape.separator with
  | none => true
  | some separator =>
    letter == 'd' || (separator == '_' && "boxX".toList.contains letter)

def int? (shape : Shape) (i : Int) : Option (List Char) :=
  let letter := match shape.letter with
    | none => 'd'
    | some letter => letter
  if "eEfFgG%".toList.contains letter then (Binary64.ofInt? i).bind shape.float?
  else if shape.precision.isSome then none
  else if letter == 'n' then
    if shape.separator.isNone then (Figure.ofInt? 'd' false 1 i).map shape.figure else none
  else if letter == 'c' then
    if shape.sign.isNone && !shape.marked && shape.separator.isNone && 0 ≤ i then
      (Text.Codes.char? i.toNat).map fun c =>
        shape.pad (shape.align.getD (if shape.zero then .apart else .right)) [] [c]
    else none
  else if shape.allows letter then
    (Figure.ofInt? letter shape.marked 1 i).map shape.figure
  else none

/-- A datum in a shape; without a shape it is shown as it is. -/
def shown? (wording : Wording) (spec : List Char) (d : Datum) : Option (List Char) :=
  if spec.isEmpty then some (d.shown wording.kind).toList
  else do
    let shape ← ofChars? spec
    match d with
    | .value (.text s) => shape.text? s
    | .value (.int i) => shape.int? i
    | .value (.bool b) => shape.int? (if b then 1 else 0)
    | .value (.float x) =>
      if shape.separator.isSome && shape.letter = some 'n' then none else shape.float? x
    | _ => none

end Shape

end Rollout.Log
