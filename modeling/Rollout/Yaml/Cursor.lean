/-!
A place in the text of a document.

The end of the text counts as a blank and as a line end wherever one of those may follow.
-/

set_option autoImplicit false
set_option relaxedAutoImplicit false

namespace Rollout.Yaml

def isBreak (c : Char) : Bool :=
  c == '\n' || c == '\r' || c == '\x85' || c == '\u2028' || c == '\u2029'

/-- The characters that end a word: blanks and line ends. -/
def isGap (c : Char) : Bool := c == ' ' || c == '\t' || isBreak c

/-- The rest of a text, how many characters were read, and the line and column reached. -/
structure Cursor where
  rest : List Char
  index : Nat
  line : Nat
  column : Nat
  deriving Repr

namespace Cursor

def start (text : List Char) : Cursor := ⟨text, 0, 0, 0⟩

def peek (c : Cursor) : Option Char := c.rest.head?

def peekAt (c : Cursor) (n : Nat) : Option Char := c.rest[n]?

def atEndOr (c : Cursor) (p : Char → Bool) : Bool := c.peek.all p

def endOrAt (c : Cursor) (n : Nat) (p : Char → Bool) : Bool := (c.peekAt n).all p

def sees (c : Cursor) (p : Char → Bool) : Bool := c.peek.any p

def startsWith (c : Cursor) (start : List Char) : Bool := start.isPrefixOf c.rest

def forward (c : Cursor) : Cursor :=
  match c.rest with
  | [] => c
  | ch :: rest =>
    if ch == '\r' then
      if rest.head? = some '\n' then ⟨rest, c.index + 1, c.line, c.column + 1⟩
      else ⟨rest, c.index + 1, c.line + 1, 0⟩
    else if isBreak ch then ⟨rest, c.index + 1, c.line + 1, 0⟩
    else if ch == '\uFEFF' then ⟨rest, c.index + 1, c.line, c.column⟩
    else ⟨rest, c.index + 1, c.line, c.column + 1⟩

def skip : Nat → Cursor → Cursor
  | 0, c => c
  | n + 1, c => skip n c.forward

def takeWhile (p : Char → Bool) (c : Cursor) : List Char × Cursor :=
  let run := c.rest.takeWhile p
  (run, c.skip run.length)

def skipWhile (p : Char → Bool) (c : Cursor) : Cursor := (c.takeWhile p).2

def skipSpaces (c : Cursor) : Cursor := c.skipWhile (· == ' ')

def skipComment (c : Cursor) : Cursor :=
  if c.peek = some '#' then c.skipWhile (!isBreak ·) else c

/-- Read a line end, if there is one. The two separators of other scripts stay as they are, every
other line end is a line feed. -/
def lineBreak? (c : Cursor) : Option (Char × Cursor) :=
  match c.rest with
  | '\r' :: '\n' :: _ => some ('\n', c.skip 2)
  | ch :: _ =>
    if ch == '\u2028' || ch == '\u2029' then some (ch, c.forward)
    else if isBreak ch then some ('\n', c.forward)
    else none
  | [] => none

def skipBreak (c : Cursor) : Cursor := (c.lineBreak?.map (·.2)).getD c

/-- Whether a document mark, three equal characters before a gap, stands here. -/
def atMark (c : Cursor) (mark : Char) : Bool :=
  c.startsWith [mark, mark, mark] && c.endOrAt 3 isGap

def atAnyMark (c : Cursor) : Bool := c.atMark '-' || c.atMark '.'

end Cursor

end Rollout.Yaml
