import Rollout.Log.Layout.Shape

/-!
Layouts in the style of braces.

Between braces stand the name of a field, parts of it that are shown instead of the whole, an
exclamation mark with a letter where the field is to be quoted, and a colon with a shape, in which
fields may stand for numbers. A doubled brace is one.
-/

set_option autoImplicit false
set_option relaxedAutoImplicit false

namespace Rollout.Log.Brace

def opening : Char := '\x7b'

def closing : Char := '\x7d'

/-- Why a layout cannot be read or is refused. -/
inductive Fault
  | single (brace : Char)
  | openingInName
  | noConversion
  | noColon
  | openShape
  | noClosing
  | badName (name : String)
  | badConversion (letter : Char)
  | badShape (shape : String)
  | noFields
  deriving DecidableEq, Repr

def Fault.message : Fault → String
  | .single brace => s!"Single '{brace}' encountered in format string"
  | .openingInName => s!"unexpected '{opening}' in field name"
  | .noConversion => "end of string while looking for conversion specifier"
  | .noColon => "expected ':' after conversion specifier"
  | .openShape => s!"unmatched '{opening}' in format spec"
  | .noClosing => s!"expected '{closing}' before end of string"
  | .badName name => s!"invalid field name/expression: {Text.quoted name}"
  | .badConversion letter => s!"invalid conversion: {Text.quoted (String.singleton letter)}"
  | .badShape shape => s!"bad specifier: {Text.quoted shape}"
  | .noFields => "no fields"

structure Field where
  name : List Char
  conversion : Option Char
  shape : List Char
  deriving DecidableEq, Repr

inductive Piece
  | text (cs : List Char)
  | field (field : Field)
  deriving DecidableEq, Repr

/-- Read the name of a field: what it is, the character that ended it, and the rest. Brackets in it
hold anything. -/
def nameEnd (inBrackets : Bool) : List Char → Except Fault (List Char × Char × List Char)
  | [] => .error .noClosing
  | c :: rest =>
    if inBrackets then
      (nameEnd (c != ']') rest).map fun (name, stop, rest) => (c :: name, stop, rest)
    else if c == opening then .error .openingInName
    else if c == closing || c == ':' || c == '!' then .ok ([], c, rest)
    else (nameEnd (c == '[') rest).map fun (name, stop, rest) => (c :: name, stop, rest)

def shapeEnd (depth : Nat) : List Char → Except Fault (List Char × List Char)
  | [] => .error .openShape
  | c :: rest =>
    if c == closing then
      match depth with
      | 0 => .ok ([], rest)
      | depth + 1 => (shapeEnd depth rest).map fun (shape, rest) => (c :: shape, rest)
    else
      (shapeEnd (if c == opening then depth + 1 else depth) rest).map fun (shape, rest) =>
        (c :: shape, rest)

/-- Read a field behind its opening brace. -/
def field (cs : List Char) : Except Fault (Field × List Char) := do
  let (name, stop, rest) ← nameEnd false cs
  let withShape (conversion : Option Char) (cs : List Char) : Except Fault (Field × List Char) :=
    (shapeEnd 0 cs).map fun (shape, rest) => (⟨name, conversion, shape⟩, rest)
  if stop == closing then return (⟨name, none, []⟩, rest)
  else if stop == ':' then withShape none rest
  else
    match rest with
    | [] => throw .noConversion
    | [_] => throw .openShape
    | letter :: mark :: rest =>
      if mark == closing then return (⟨name, some letter, []⟩, rest)
      else if mark == ':' then withShape (some letter) rest
      else throw .noColon

/-- The pieces of a layout up to the first fault in it. -/
def pieces (room : Nat) (cs : List Char) : List Piece × Option Fault :=
  match room with
  | 0 => ([], none)
  | room + 1 =>
    let isBrace (c : Char) : Bool := c == opening || c == closing
    let text := cs.takeWhile (!isBrace ·)
    match cs.drop text.length with
    | [] => ([.text text], none)
    | brace :: rest =>
      if rest.head? = some brace then
        let (more, fault) := pieces room (rest.drop 1)
        (.text (text ++ [brace]) :: more, fault)
      else if brace == closing || rest.isEmpty then ([], some (.single brace))
      else
        match field rest with
        | .error fault => ([], some fault)
        | .ok (field, rest) =>
          let (more, fault) := pieces room rest
          (.text text :: .field field :: more, fault)

/-- Cut a part off a name: a point and a word, or brackets and what they hold. -/
def cutPart? : List Char → Option (List Char)
  | '.' :: rest =>
    let rest' := rest.dropWhile Text.isWordChar
    if rest'.length < rest.length then some rest' else none
  | '[' :: rest =>
    let inner := rest.takeWhile (· != ']')
    match rest.drop inner.length with
    | ']' :: rest => if inner.isEmpty then none else some rest
    | _ => none
  | _ => none

/-- Whether a text is a row of parts of a name; a line feed at its end does not count. -/
def areParts (room : Nat) (cs : List Char) : Bool :=
  match room with
  | 0 => false
  | room + 1 => cs.isEmpty || cs == ['\n'] || (cutPart? cs).any (areParts room)

/-- Whether a text is the name of a field: a word and parts. -/
def isFieldName (cs : List Char) : Bool :=
  (cs.head?.any Text.isWordChar) && areParts (cs.length + 1) (cs.dropWhile Text.isWordChar)

def dropNumber (cs : List Char) : Option (List Char) :=
  let digits := cs.takeWhile Text.isDecimalDigit
  if !digits.isEmpty then some (cs.drop digits.length)
  else match cs with
    | c :: rest =>
      let name := rest.takeWhile Text.isWordChar
      if c == opening && !name.isEmpty && (rest.drop name.length).head? = some closing then
        some (rest.drop (name.length + 1))
      else none
    | [] => none

/-- Whether a text is a shape behind its alignment. -/
def isUnaligned (cs : List Char) : Bool :=
  let rest := (Shape.oneOf "+- " cs).2
  let rest := (Shape.oneOf "#" rest).2
  let zeroless := (Shape.oneOf "0" rest).2
  let isEnd (cs : List Char) : Bool :=
    let cs := (Shape.oneOf "bcdefgnosxBCDEFGNOSX%" cs).2
    cs.isEmpty || cs == ['\n']
  let afterWidth (cs : List Char) : Bool :=
    let cs := (Shape.oneOf ",_" cs).2
    match cs with
    | '.' :: rest => (dropNumber rest).any isEnd
    | _ => isEnd cs
  afterWidth ((dropNumber zeroless).getD zeroless) || afterWidth ((dropNumber rest).getD rest)

def isShape (cs : List Char) : Bool :=
  let isMark (c : Char) : Bool := c == '<' || c == '>' || c == '=' || c == '^'
  isUnaligned cs ||
    match cs with
    | fill :: mark :: rest =>
      (isMark mark && fill != '\n' && isUnaligned rest) ||
        (isMark fill && isUnaligned (mark :: rest))
    | [mark] => isMark mark
    | [] => true

def Field.check (field : Field) : Except Fault Unit := do
  if !field.name.isEmpty && !isFieldName field.name then
    throw (.badName (String.ofList field.name))
  if let some letter := field.conversion then
    if !"rsa".toList.contains letter then throw (.badConversion letter)
  if !field.shape.isEmpty && !isShape field.shape then throw (.badShape (String.ofList field.shape))

/-- Check a layout: it can be read, all its fields are sound, and it has a field with a name. -/
def check (layout : String) : Except Fault Unit := do
  let (pieces, fault) := pieces (layout.length + 1) layout.toList
  let fields := pieces.filterMap fun
    | .field field => some field
    | .text _ => none
  for field in fields do
    field.check
  match fault with
  | some fault => throw fault
  | none => if fields.all (·.name.isEmpty) then throw .noFields else pure ()

def partOf? (d : Datum) (key : List Char) : Option Datum :=
  let number := if key.all Char.isDigit then (String.ofList key).toNat? else none
  match d, number with
  | .row items, some n => items[n]?
  | .value (.list items), some n => items[n]?.map .value
  | .value (.text s), some n => s.toList[n]?.map fun c => .text (String.singleton c)
  | .value (.map entries), some n =>
    (entries.find? (·.1.sameKey (.int n))).map (.value ·.2)
  | .value (.map entries), none => (Value.get? entries (String.ofList key)).map .value
  | _, _ => none

def partsOf? (room : Nat) (d : Datum) (cs : List Char) : Option Datum :=
  match room, cs with
  | _, [] => some d
  | room + 1, '[' :: rest =>
    let key := rest.takeWhile (· != ']')
    (partOf? d key).bind fun part => partsOf? room part (rest.drop (key.length + 1))
  | _, _ => none

def lookUp? (fields : Fields) (name : List Char) : Option Datum :=
  let isEnd (c : Char) : Bool := c == '.' || c == '['
  let first := name.takeWhile (!isEnd ·)
  (fields (String.ofList first)).bind fun d =>
    partsOf? (name.length + 1) d (name.drop first.length)

/-- The line of pieces, whose shapes may hold fields `depth` deep; none where a field is missing or
does not suit its shape. -/
def lineOf? (wording : Wording) (fields : Fields) (depth : Nat) (layout : List Char) :
    Option (List Char) :=
  match depth with
  | 0 => none
  | depth + 1 => do
    let (pieces, fault) := pieces (layout.length + 1) layout
    if fault.isSome then none
    let parts ← pieces.mapM fun
      | .text cs => some cs
      | .field field => do
        let d ← lookUp? fields field.name
        let spec ←
          if field.shape.contains opening then lineOf? wording fields depth field.shape
          else some field.shape
        match field.conversion with
        | none => Shape.shown? wording spec d
        | some 's' => Shape.shown? wording spec (.text (d.shown wording.kind))
        | some 'r' => Shape.shown? wording spec (.text (d.quote wording.kind))
        | some 'a' => Shape.shown? wording spec (.text (Text.ascii (d.quote wording.kind)))
        | some _ => none
    return parts.flatten

def line? (wording : Wording) (fields : Fields) (layout : String) : Option (List Char) :=
  lineOf? wording fields 2 layout.toList

end Rollout.Log.Brace
