import Rollout.Yaml.Cursor
import Rollout.Yaml.Token
import Rollout.Text.Utf8

/-!
Reading of scalars, tags, anchors and directives.

A plain scalar ends before a comment, before a colon with a gap behind it, or at a flow indicator. A
quoted scalar folds its line ends. A block scalar keeps or folds the lines that are indented deeply
enough.
-/

set_option autoImplicit false
set_option relaxedAutoImplicit false

namespace Rollout.Yaml

def isWord (c : Char) : Bool := c.isAlphanum || c == '-' || c == '_'

def hexValue? (c : Char) : Option Nat :=
  if c.isDigit then some (c.toNat - '0'.toNat)
  else if 'a' ≤ c ∧ c ≤ 'f' then some (c.toNat - 'a'.toNat + 10)
  else if 'A' ≤ c ∧ c ≤ 'F' then some (c.toNat - 'A'.toNat + 10)
  else none

def hexNumber? (cs : List Char) : Option Nat :=
  cs.foldlM (fun n c => (hexValue? c).map (n * 16 + ·)) 0

def isFlowIndicator (c : Char) : Bool :=
  c == ',' || c == '[' || c == ']' || c == '\x7b' || c == '\x7d'

namespace Cursor

open Text (Codes)

/-- Read the line ends and indentation after a line of a plain scalar; a document mark stops
it. -/
def plainBreaks (room : Nat) (breaks : List Char) (c : Cursor) : Option (List Char) × Cursor :=
  match room with
  | 0 => (some breaks, c)
  | room + 1 =>
    if c.peek = some ' ' then plainBreaks room breaks c.forward
    else match c.lineBreak? with
      | some (b, c) => if c.atAnyMark then (none, c) else plainBreaks room (breaks ++ [b]) c
      | none => (some breaks, c)

def fold (first : Char) (breaks : List Char) : List Char :=
  if first != '\n' then first :: breaks
  else if breaks.isEmpty then [' ']
  else breaks

def plainGap (c : Cursor) : List Char × Bool × Cursor :=
  let (blanks, c) := c.takeWhile (· == ' ')
  match c.lineBreak? with
  | some (b, c) =>
    if c.atAnyMark then ([], true, c)
    else match plainBreaks c.rest.length [] c with
      | (none, c) => ([], true, c)
      | (some breaks, c) => (fold b breaks, true, c)
  | none => (blanks, false, c)

def plainLength (flow : Bool) : List Char → Nat
  | [] => 0
  | c :: rest =>
    if isGap c then 0
    else if c == ':' && (rest.head?.all fun d => isGap d || (flow && isFlowIndicator d)) then 0
    else if flow && (isFlowIndicator c || c == '?') then 0
    else plainLength flow rest + 1

/-- Read a plain scalar: its text, whether a key may start behind it, and the place behind it. -/
def plain (flow : Bool) (indent : Int) (room : Nat) (gap : List Char) (keyAllowed : Bool)
    (c : Cursor) : List Char × Bool × Cursor :=
  match room with
  | 0 => ([], keyAllowed, c)
  | room + 1 =>
    if c.peek = some '#' then ([], keyAllowed, c)
    else
      let length := plainLength flow c.rest
      if length = 0 then ([], keyAllowed, c)
      else
        let part := c.rest.take length
        let (next, ended, after) := (c.skip length).plainGap
        if next.isEmpty || after.peek = some '#' || (!flow && (after.column : Int) < indent) then
          (gap ++ part, ended, after)
        else
          let (more, keyAllowed, behind) := plain flow indent room next ended after
          (gap ++ part ++ more, keyAllowed, behind)

def isQuotedText (c : Char) : Bool := !(c == '\x27' || c == '"' || c == '\\' || isGap c)

def escaped? : Char → Option Char
  | '0' => some '\x00' | 'a' => some '\x07' | 'b' => some '\x08' | 't' => some '\t'
  | '\t' => some '\t' | 'n' => some '\n' | 'v' => some '\x0b' | 'f' => some '\x0c'
  | 'r' => some '\r' | 'e' => some '\x1b' | ' ' => some ' ' | '"' => some '"'
  | '\\' => some '\\' | '/' => some '/' | 'N' => some '\x85' | '_' => some '\xa0'
  | 'L' => some '\u2028' | 'P' => some '\u2029' | _ => none

def codeLength? : Char → Option Nat
  | 'x' => some 2 | 'u' => some 4 | 'U' => some 8 | _ => none

def codePoint (n : Nat) : Except Fault Nat :=
  if n < 0x110000 then .ok n
  else if n < 0x80000000 then .error (.value .notCodePoint)
  else .error (.value .codeTooLarge)

def quotedBreaks (room : Nat) (breaks : List Char) (c : Cursor) :
    Except Fault (List Char × Cursor) :=
  match room with
  | 0 => .error .malformed
  | room + 1 =>
    if c.atAnyMark then .error .malformed
    else
      let c := c.skipWhile fun ch => ch == ' ' || ch == '\t'
      match c.lineBreak? with
      | some (b, c) => quotedBreaks room (breaks ++ [b]) c
      | none => .ok (breaks, c)

/-- Read the escape behind a backslash between double quotes. -/
def escape (c : Cursor) : Except Fault (Codes × Cursor) := do
  let some ch := c.peek | throw .malformed
  match escaped? ch with
  | some shown => return ([shown.toNat], c.forward)
  | none =>
    match codeLength? ch with
    | some length =>
      let c := c.forward
      let digits := c.rest.take length
      if digits.length < length then throw .malformed
      let some code := hexNumber? digits | throw .malformed
      let shown ← codePoint code
      return ([shown], c.skip length)
    | none =>
      match c.lineBreak? with
      | some (_, c) =>
        let (breaks, c) ← quotedBreaks (c.rest.length + 1) [] c
        return (Codes.ofChars breaks, c)
      | none => throw .malformed

/-- Read a quoted scalar from behind its opening quote to behind its closing quote. -/
def quoted (double : Bool) (room : Nat) (c : Cursor) : Except Fault (Codes × Cursor) :=
  match room with
  | 0 => .error .malformed
  | room + 1 => do
    let (run, c) := c.takeWhile isQuotedText
    let some ch := c.peek | throw .malformed
    if isGap ch then
      let (blanks, c) := c.takeWhile fun ch => ch == ' ' || ch == '\t'
      if c.peek.isNone then throw .malformed
      match c.lineBreak? with
      | some (b, c) =>
        let (breaks, c) ← quotedBreaks (c.rest.length + 1) [] c
        let (more, c) ← quoted double room c
        return (Codes.ofChars (run ++ fold b breaks) ++ more, c)
      | none =>
        let (more, c) ← quoted double room c
        return (Codes.ofChars (run ++ blanks) ++ more, c)
    else if !double && ch == '\x27' && c.peekAt 1 = some '\x27' then
      let (more, c) ← quoted double room (c.skip 2)
      return (Codes.ofChars (run ++ ['\x27']) ++ more, c)
    else if ch == (if double then '"' else '\x27') then return (Codes.ofChars run, c.forward)
    else if double && ch == '\\' then
      let (shown, c) ← c.forward.escape
      let (more, c) ← quoted double room c
      return (Codes.ofChars run ++ shown ++ more, c)
    else
      let (more, c) ← quoted double room c.forward
      return (Codes.ofChars (run ++ [ch]) ++ more, c)

/-- What becomes of the line ends behind a block scalar. -/
inductive Chomping
  | clip
  | strip
  | keep
  deriving DecidableEq

def chomping? (c : Cursor) : Option (Chomping × Cursor) :=
  match c.peek with
  | some '+' => some (.keep, c.forward)
  | some '-' => some (.strip, c.forward)
  | _ => none

def increment? (c : Cursor) : Except Fault (Option Nat × Cursor) :=
  match c.peek with
  | some ch =>
    if ch.isDigit then
      if ch == '0' then .error .malformed else .ok (some (ch.toNat - '0'.toNat), c.forward)
    else .ok (none, c)
  | none => .ok (none, c)

/-- Read the head of a block scalar, behind its indicator. -/
def blockHead (c : Cursor) : Except Fault (Chomping × Option Nat × Cursor) := do
  let (chomping, increment, c) ←
    match c.chomping? with
    | some (chomping, c) => do
      let (increment, c) ← c.increment?
      pure (chomping, increment, c)
    | none => do
      let (increment, c) ← c.increment?
      match increment, c.chomping? with
      | some _, some (chomping, c) => pure (chomping, increment, c)
      | _, _ => pure (.clip, increment, c)
  if !(c.atEndOr fun ch => ch == ' ' || isBreak ch) then throw .malformed
  let c := c.skipSpaces.skipComment
  if !(c.atEndOr isBreak) then throw .malformed
  return (chomping, increment, c.skipBreak)

/-- Read the empty lines before a block scalar, and how deeply they are indented. -/
def blockIndentation (room : Nat) (breaks : List Char) (deepest : Nat) (c : Cursor) :
    List Char × Nat × Cursor :=
  match room with
  | 0 => (breaks, deepest, c)
  | room + 1 =>
    if c.peek = some ' ' then
      let c := c.forward
      blockIndentation room breaks (max deepest c.column) c
    else match c.lineBreak? with
      | some (b, c) => blockIndentation room (breaks ++ [b]) deepest c
      | none => (breaks, deepest, c)

def indentTo (room indent : Nat) (c : Cursor) : Cursor :=
  match room with
  | 0 => c
  | room + 1 =>
    if c.column < indent && c.peek = some ' ' then indentTo room indent c.forward else c

def blockBreaks (room indent : Nat) (breaks : List Char) (c : Cursor) : List Char × Cursor :=
  match room with
  | 0 => (breaks, c)
  | room + 1 =>
    let c := c.indentTo indent indent
    match c.lineBreak? with
    | some (b, c) => blockBreaks room indent (breaks ++ [b]) c
    | none => (breaks, c)

/-- Read the lines of a block scalar; `breaks` are the empty lines before the line that stands
here. -/
def blockLines (folded : Bool) (chomping : Chomping) (indent : Nat) (room : Nat)
    (breaks : List Char) (c : Cursor) : List Char × Cursor :=
  match room with
  | 0 => ([], c)
  | room + 1 =>
    let blank (c : Cursor) : Bool := c.sees fun ch => ch == ' ' || ch == '\t'
    let flush := !blank c
    let (line, c) := c.takeWhile (!isBreak ·)
    let (ending, c) :=
      match c.lineBreak? with
      | some (b, c) => ([b], c)
      | none => ([], c)
    let (next, c) := blockBreaks (c.rest.length + 1) indent [] c
    if c.column = indent && c.peek.isSome then
      let between :=
        if folded && ending == ['\n'] && flush && !blank c then
          if next.isEmpty then [' '] else []
        else ending
      let (more, c) := blockLines folded chomping indent room next c
      (breaks ++ line ++ between ++ more, c)
    else
      let tail :=
        match chomping with
        | .strip => []
        | .clip => ending
        | .keep => ending ++ next
      (breaks ++ line ++ tail, c)

/-- Read a block scalar from behind its indicator; `outer` is the indentation around it. -/
def block (folded : Bool) (outer : Int) (c : Cursor) : Except Fault (List Char × Cursor) := do
  let (chomping, increment, c) ← c.blockHead
  let least := max (outer + 1).toNat 1
  let (breaks, indent, c) :=
    match increment with
    | none =>
      let (breaks, deepest, c) := blockIndentation c.rest.length [] 0 c
      (breaks, max least deepest, c)
    | some increment =>
      let indent := least + increment - 1
      let (breaks, c) := blockBreaks (c.rest.length + 1) indent [] c
      (breaks, indent, c)
  if c.column = indent && c.peek.isSome then
    return blockLines folded chomping indent c.rest.length breaks c
  else
    return (if chomping = .keep then breaks else [], c)

def word (c : Cursor) : Except Fault (List Char × Cursor) :=
  let (name, c) := c.takeWhile isWord
  if name.isEmpty then .error .malformed else .ok (name, c)

def anchorName (c : Cursor) : Except Fault (List Char × Cursor) := do
  let (name, c) ← c.word
  let closes (ch : Char) : Bool := isGap ch || "?:,]\x7d%@\x60".toList.contains ch
  if c.atEndOr closes then return (name, c) else throw .malformed

def isTagChar (c : Char) : Bool :=
  c.isAlphanum || "-;/?:@&=+$,_.!~*'()[]%".toList.contains c

/-- Read bytes that are written as percent signs with two digits each. -/
def percentBytes (room : Nat) (c : Cursor) : Except Fault (List UInt8 × Cursor) :=
  match room with
  | 0 => .ok ([], c)
  | room + 1 =>
    if c.peek = some '%' then do
      let c := c.forward
      let digits := c.rest.take 2
      if digits.length < 2 then throw .malformed
      let some n := hexNumber? digits | throw .malformed
      let (more, c) ← percentBytes room (c.skip 2)
      return (n.toUInt8 :: more, c)
    else .ok ([], c)

def tagText (room : Nat) (c : Cursor) : Except Fault (List Char × Cursor) :=
  match room with
  | 0 => .ok ([], c)
  | room + 1 => do
    let (run, c) := c.takeWhile fun ch => isTagChar ch && ch != '%'
    if c.peek = some '%' then
      let (bytes, c) ← c.percentBytes c.rest.length
      match Text.Utf8.decode bytes with
      | .error _ => throw .malformed
      | .ok shown =>
        let (more, c) ← tagText room c
        return (run ++ shown ++ more, c)
    else return (run, c)

/-- Read the characters of a tag; there is at least one. -/
def tagSuffix (c : Cursor) : Except Fault (List Char × Cursor) :=
  if c.sees isTagChar then c.tagText (c.rest.length + 1) else .error .malformed

def tagHandle (c : Cursor) : Except Fault (List Char × Cursor) :=
  if c.peek != some '!' then .error .malformed
  else
    let after := c.forward
    if after.peek = some ' ' then .ok (['!'], after)
    else
      let (name, after) := after.takeWhile isWord
      if after.peek = some '!' then .ok ('!' :: name ++ ['!'], after.forward) else .error .malformed

def tag (c : Cursor) : Except Fault (Token × Cursor) := do
  let (handle, suffix, c) ←
    match c.peekAt 1 with
    | some '<' => do
      let (suffix, c) ← (c.skip 2).tagSuffix
      if c.peek != some '>' then throw .malformed
      pure (none, suffix, c.forward)
    | next =>
      if next.all isGap then pure (none, ['!'], c.forward)
      else do
        let name := (c.rest.drop 1).takeWhile fun ch => !(ch == ' ' || isBreak ch)
        let (handle, c) ← if name.contains '!' then c.tagHandle else pure (['!'], c.forward)
        let (suffix, c) ← c.tagSuffix
        pure (some handle, suffix, c)
  if c.atEndOr fun ch => ch == ' ' || isBreak ch then return (.tag handle suffix, c)
  else throw .malformed

def versionNumber (c : Cursor) : Except Fault (Int × Cursor) :=
  let (digits, c) := c.takeWhile Char.isDigit
  match Number.readWhole 10 (String.ofList digits) with
  | .ok n => .ok (n, c)
  | .error (.tooLong count) => .error (.value (.tooLongToRead count))
  | .error .malformed => .error .malformed

def directive (c : Cursor) : Except Fault (Directive × Cursor) := do
  let closes (ch : Char) : Bool := ch == ' ' || isBreak ch
  let (name, c) ← c.forward.word
  if !c.atEndOr closes then throw .malformed
  let (directive, c) ←
    if name == "YAML".toList then do
      let (major, c) ← c.skipSpaces.versionNumber
      if c.peek != some '.' then throw .malformed
      let (_, c) ← c.forward.versionNumber
      if !c.atEndOr closes then throw .malformed
      pure (Directive.version major, c)
    else if name == "TAG".toList then do
      let (handle, c) ← c.skipSpaces.tagHandle
      if c.peek != some ' ' then throw .malformed
      let (lead, c) ← c.skipSpaces.tagSuffix
      if !c.atEndOr closes then throw .malformed
      pure (Directive.tag handle lead, c)
    else pure (Directive.other, c.skipWhile (!isBreak ·))
  let c := c.skipSpaces.skipComment
  if !c.atEndOr isBreak then throw .malformed
  return (directive, c.skipBreak)

end Cursor

end Rollout.Yaml
