import Rollout.Yaml.Scalar

/-!
From text to tokens.

Indentation opens and closes block collections. A node that a colon follows on the same line was a
key, so the place before each node that may turn out to be one is remembered until the line ends,
and the key's token is put in there afterwards. As long as a token may still turn out to be the
start of a key, neither it nor any token behind it is known.
-/

set_option autoImplicit false
set_option relaxedAutoImplicit false

namespace Rollout.Yaml

/-- A node that may turn out to be a key: how many tokens stand before it, whether it must be a key,
and where it starts. -/
structure PossibleKey where
  number : Nat
  required : Bool
  index : Nat
  line : Nat
  column : Nat

structure Scanner where
  cursor : Cursor
  tokens : Array Token
  flowLevel : Nat
  indent : Int
  outer : List Int
  keyAllowed : Bool
  keys : List (Nat × PossibleKey)

namespace Scanner

def start (text : List Char) : Scanner := ⟨.start text, #[], 0, -1, [], true, []⟩

def keyLimit : Nat := 1024

def push (s : Scanner) (token : Token) : Scanner := { s with tokens := s.tokens.push token }

def inFlow (s : Scanner) : Bool := s.flowLevel != 0

def skipIdle (room : Nat) (s : Scanner) : Scanner :=
  match room with
  | 0 => s
  | room + 1 =>
    let cursor := s.cursor.skipSpaces.skipComment
    match cursor.lineBreak? with
    | some (_, cursor) =>
      skipIdle room { s with cursor := cursor, keyAllowed := s.keyAllowed || !s.inFlow }
    | none => { s with cursor := cursor }

def dropStale (s : Scanner) : Except Fault Scanner :=
  let stale (key : PossibleKey) : Bool :=
    key.line != s.cursor.line || s.cursor.index - key.index > keyLimit
  if s.keys.any fun entry => stale entry.2 && entry.2.required then .error .malformed
  else .ok { s with keys := s.keys.filter fun entry => !stale entry.2 }

def dropKey (s : Scanner) : Except Fault Scanner :=
  if s.keys.any fun entry => entry.1 == s.flowLevel && entry.2.required then .error .malformed
  else .ok { s with keys := s.keys.filter fun entry => entry.1 != s.flowLevel }

def saveKey (s : Scanner) : Except Fault Scanner :=
  if s.keyAllowed then do
    let required := !s.inFlow && s.indent == s.cursor.column
    let s ← s.dropKey
    let key : PossibleKey :=
      ⟨s.tokens.size, required, s.cursor.index, s.cursor.line, s.cursor.column⟩
    return { s with keys := (s.flowLevel, key) :: s.keys }
  else .ok s

def unwindFrom (column : Int) : List Int → Scanner → Scanner
  | [], s => s
  | before :: rest, s =>
    if s.indent > column then
      unwindFrom column rest { s.push .blockEnd with indent := before, outer := rest }
    else s

/-- Close block collections down to a column; in a flow collection indentation does not count. -/
def unwind (column : Int) (s : Scanner) : Scanner :=
  if s.inFlow then s else unwindFrom column s.outer s

def indentTo (column : Nat) (s : Scanner) : Option Scanner :=
  if s.indent < column then some { s with indent := column, outer := s.indent :: s.outer } else none

def openBlock (column : Nat) (token : Token) (s : Scanner) : Scanner :=
  match s.indentTo column with
  | some s => s.push token
  | none => s

def take (n : Nat) (token : Token) (s : Scanner) : Scanner :=
  { s with cursor := s.cursor.skip n }.push token

def documentToken (read : Scanner → Except Fault Scanner) (s : Scanner) :
    Except Fault Scanner := do
  let s ← (s.unwind (-1)).dropKey
  read { s with keyAllowed := false }

def openFlow (token : Token) (s : Scanner) : Except Fault Scanner := do
  let s ← s.saveKey
  return { s.take 1 token with flowLevel := s.flowLevel + 1, keyAllowed := true }

def closeFlow (token : Token) (s : Scanner) : Except Fault Scanner := do
  let s ← s.dropKey
  return { s.take 1 token with flowLevel := s.flowLevel - 1, keyAllowed := false }

def flowEntry (s : Scanner) : Except Fault Scanner := do
  let s ← s.dropKey
  return { s.take 1 .flowEntry with keyAllowed := true }

def blockEntry (s : Scanner) : Except Fault Scanner := do
  if !s.inFlow && !s.keyAllowed then throw .malformed
  let s := if s.inFlow then s else s.openBlock s.cursor.column .blockSequenceStart
  let s ← s.dropKey
  return { s.take 1 .blockEntry with keyAllowed := true }

def explicitKey (s : Scanner) : Except Fault Scanner := do
  if !s.inFlow && !s.keyAllowed then throw .malformed
  let s := if s.inFlow then s else s.openBlock s.cursor.column .blockMappingStart
  let s ← s.dropKey
  return { s.take 1 .key with keyAllowed := !s.inFlow }

/-- Read a colon. The possible key of this flow level becomes a key, and if it is indented more
deeply than what is around it, a block mapping starts with it. -/
def valueMark (s : Scanner) : Except Fault Scanner := do
  match s.keys.find? (·.1 == s.flowLevel) with
  | some (_, key) =>
    let s := { s with keys := s.keys.filter fun entry => entry.1 != s.flowLevel }
    let tokens := s.tokens.insertIdxIfInBounds key.number .key
    let s := { s with tokens := tokens, keyAllowed := false }
    let s :=
      if s.inFlow then s
      else match s.indentTo key.column with
        | some s => { s with tokens := s.tokens.insertIdxIfInBounds key.number .blockMappingStart }
        | none => s
    return s.take 1 .value
  | none =>
    if !s.inFlow && !s.keyAllowed then throw .malformed
    let s := if s.inFlow then s else s.openBlock s.cursor.column .blockMappingStart
    let s ← s.dropKey
    return { s.take 1 .value with keyAllowed := !s.inFlow }

def keyToken (read : Cursor → Except Fault (Token × Cursor)) (s : Scanner) :
    Except Fault Scanner := do
  let s ← s.saveKey
  let (token, cursor) ← read s.cursor
  return { s with cursor := cursor, keyAllowed := false }.push token

def blockScalar (folded : Bool) (s : Scanner) : Except Fault Scanner := do
  let s ← { s with keyAllowed := true }.dropKey
  let (text, cursor) ← s.cursor.forward.block folded s.indent
  return { s with cursor := cursor }.push (.scalar (.ofChars text) false)

def quotedScalar (double : Bool) (s : Scanner) : Except Fault Scanner :=
  s.keyToken fun cursor => do
    let (codes, cursor) ← cursor.forward.quoted double (cursor.rest.length + 1)
    return (.scalar codes false, cursor)

def plainScalar (s : Scanner) : Except Fault Scanner := do
  let s ← s.saveKey
  let (text, keyAllowed, cursor) :=
    s.cursor.plain s.inFlow (s.indent + 1) (s.cursor.rest.length + 1) [] false
  return { s with cursor := cursor, keyAllowed := keyAllowed }.push (.scalar (.ofChars text) true)

/-- Whether a plain scalar may start with a character: no indicator may, except a dash, a question
mark or a colon with no gap behind it. -/
def startsPlain (s : Scanner) (ch : Char) : Bool :=
  let indicator := "-?:,[]\x7b\x7d#&*!|>'\"%@\x60".toList.contains ch
  (!isGap ch && !indicator) ||
    (!s.cursor.endOrAt 1 isGap && (ch == '-' || (!s.inFlow && (ch == '?' || ch == ':'))))

def token (s : Scanner) (ch : Char) : Except Fault Scanner :=
  let cursor := s.cursor
  let gapNext := cursor.endOrAt 1 isGap
  if ch == '%' && cursor.column == 0 then
    s.documentToken fun s => do
      let (directive, cursor) ← s.cursor.directive
      return { s with cursor := cursor }.push (.directive directive)
  else if cursor.column == 0 && cursor.atMark '-' then
    s.documentToken fun s => return s.take 3 .documentStart
  else if cursor.column == 0 && cursor.atMark '.' then
    s.documentToken fun s => return s.take 3 .documentEnd
  else if ch == '[' then s.openFlow .flowSequenceStart
  else if ch == '\x7b' then s.openFlow .flowMappingStart
  else if ch == ']' then s.closeFlow .flowSequenceEnd
  else if ch == '\x7d' then s.closeFlow .flowMappingEnd
  else if ch == ',' then s.flowEntry
  else if ch == '-' && gapNext then s.blockEntry
  else if ch == '?' && (s.inFlow || gapNext) then s.explicitKey
  else if ch == ':' && (s.inFlow || gapNext) then s.valueMark
  else if ch == '*' then
    s.keyToken fun cursor => do
      let (name, cursor) ← cursor.forward.anchorName
      return (.alias name, cursor)
  else if ch == '&' then
    s.keyToken fun cursor => do
      let (name, cursor) ← cursor.forward.anchorName
      return (.anchor name, cursor)
  else if ch == '!' then s.keyToken Cursor.tag
  else if ch == '|' && !s.inFlow then s.blockScalar false
  else if ch == '>' && !s.inFlow then s.blockScalar true
  else if ch == '\x27' then s.quotedScalar false
  else if ch == '"' then s.quotedScalar true
  else if s.startsPlain ch then s.plainScalar
  else .error .malformed

def freshKeys (s : Scanner) : List PossibleKey :=
  (s.keys.map (·.2)).filter fun key =>
    key.line == s.cursor.line && s.cursor.index - key.index ≤ keyLimit

/-- The tokens that are known: those before the first that may still turn out to be the start of a
key. -/
def known (s : Scanner) : Array Token :=
  s.tokens.take ((s.freshKeys.map PossibleKey.number).foldl min s.tokens.size)

/-- Read the next token, or the end of the text: the state behind it, and whether it was the end. -/
def next (s : Scanner) : Except Fault (Scanner × Bool) := do
  let s ← (s.skipIdle (s.cursor.rest.length + 1)).dropStale
  let s := s.unwind s.cursor.column
  match s.cursor.peek with
  | none =>
    let s ← (s.unwind (-1)).dropKey
    return (s.push .streamEnd, true)
  | some ch => return (← s.token ch, false)

/-- Texts that complete what the end of a text cuts off: names, quoted scalars, also behind the
start of an escape, tags and directives. -/
def completions : List String :=
  ["a", "\"", "'", "00000000\"", ">", ".1", "1", "!a", "! !a", " !a", " ! !a"]

/-- Whether a fault in the next token comes from the end of the text: it does where no token is left
before the end, and where it vanishes once the text is completed. -/
def isCutOff (s : Scanner) : Bool :=
  (s.skipIdle (s.cursor.rest.length + 1)).cursor.rest.isEmpty || completions.any fun more =>
    let cursor := { s.cursor with rest := s.cursor.rest ++ more.toList }
    match { s with cursor := cursor }.next with
    | .error .malformed => false
    | _ => true

/-- Whether a text is walled and the reading comes up to the wall. One character is always read
ahead. Digits are read to their end before they are too many. -/
def meetsWall (s : Scanner) : Except Fault (Scanner × Bool) → Bool
  | .ok (after, ended) => ended || after.cursor.rest.length ≤ 1
  | .error (.value (.tooLongToRead count)) =>
    (s.cursor.rest.reverse.take count).all Char.isDigit
  | .error (.value _) => false
  | .error _ => s.isCutOff

/-- Read tokens up to the end of the text: the tokens that are known, and the fault that stopped the
reading. Where there is a wall the text goes on behind its end, but cannot be read there. Every
token takes at least one character, which bounds their number. -/
def read (wall : Option Fault) (room : Nat) (s : Scanner) : Array Token × Option Fault :=
  match room with
  | 0 => (s.tokens, some .malformed)
  | room + 1 =>
    let step := s.next
    match wall, s.meetsWall step, step with
    | some fault, true, _ => (s.known, some fault)
    | _, _, .error fault => (s.known, some fault)
    | _, _, .ok (after, true) => (after.tokens, none)
    | _, _, .ok (after, false) => read wall room after

end Scanner

/-- The tokens of a text, and the fault that stopped the reading. A mark of the byte order at the
start is passed over. -/
def Token.scan (text : List Char) (wall : Option Fault) : Array Token × Option Fault :=
  let s := Scanner.start text
  let s := if text.head? = some '\uFEFF' then { s with cursor := s.cursor.forward } else s
  s.read wall (text.length + 1)

end Rollout.Yaml
