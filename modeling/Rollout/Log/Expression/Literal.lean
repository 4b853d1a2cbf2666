import Rollout.Log.Expression.Token

/-!
What texts between quotes stand for.

Escapes stand for characters, unless a letter before the text turns them off. A text may also stand
for bytes, and texts that follow each other are one.
-/

set_option autoImplicit false
set_option relaxedAutoImplicit false

namespace Rollout.Log.Expression

namespace Literal

def isRaw (l : Literal) : Bool := l.letters.contains 'r'

def isBytes (l : Literal) : Bool := l.letters.contains 'b'

def letterCodes : List (Char × Nat) := [
  ('\\', 92), (Text.apostrophe, 39), ('"', 34), ('a', 7), ('b', 8), ('f', 12), ('n', 10), ('r', 13),
  ('t', 9), ('v', 11)]

def hexForms : List (Char × Nat × String) := [
  ('x', 2, "\\xXX"), ('u', 4, "\\uXXXX"), ('U', 8, "\\UXXXXXXXX")]

def valueIn (base : Nat) (ds : List Char) : Nat := Tokens.valueIn base ds

def digitsAt (base count : Nat) (cs : List Char) : List Char :=
  (cs.take count).takeWhile fun c => c.toNat < 128 && (Number.digitIn? base c).isSome

/-- How much room a character takes where the places of faults are counted. -/
def roomOf (c : Char) : Nat := if c.toNat < 128 then 1 else 10

def braced? (cs : List Char) : Option Nat :=
  match cs with
  | c :: rest =>
    let name := rest.takeWhile (· != '\x7d')
    if c == '\x7b' && !name.isEmpty && name.length < rest.length then some (name.length + 2)
    else none
  | [] => none

/-- The code points of a text whose escapes count; `position` is the place of its first character.
A step takes at least one character, so that `fuel` need not be more than their number. -/
def codesFrom (fuel position : Nat) (cs : List Char) : Except Cause Text.Codes :=
  match fuel, cs with
  | 0, _ | _, [] => .ok []
  | fuel + 1, '\\' :: c :: rest => do
    if c == '\n' then return ← codesFrom fuel (position + 2) rest
    if let some (_, code) := letterCodes.find? (·.1 == c) then
      return code :: (← codesFrom fuel (position + 2) rest)
    if let some (_, count, form) := hexForms.find? (·.1 == c) then
      let ds := digitsAt 16 count rest
      let last := position + 1 + ds.length
      if ds.length < count then throw (.escape position last (.cut form))
      let code := valueIn 16 ds
      if code > 0x10FFFF then throw (.escape position last .noCharacter)
      return code :: (← codesFrom fuel (last + 1) (rest.drop count))
    if c == 'N' then
      match braced? rest with
      | none => throw (.escape position (position + 1) .noName)
      | some length => throw (.escape position (position + 1 + length) .unknownName)
    let octal := digitsAt 8 3 (c :: rest)
    if octal.isEmpty then
      return 92 :: c.toNat :: (← codesFrom fuel (position + 1 + roomOf c) rest)
    return valueIn 8 octal ::
      (← codesFrom fuel (position + 1 + octal.length) ((c :: rest).drop octal.length))
  | fuel + 1, c :: rest => do
    return c.toNat :: (← codesFrom fuel (position + roomOf c) rest)

def bytesFrom (fuel position : Nat) (cs : List Char) : Except Cause (List UInt8) :=
  match fuel, cs with
  | 0, _ | _, [] => .ok []
  | fuel + 1, '\\' :: c :: rest => do
    if c == '\n' then return ← bytesFrom fuel (position + 2) rest
    if let some (_, code) := letterCodes.find? (·.1 == c) then
      return code.toUInt8 :: (← bytesFrom fuel (position + 2) rest)
    if c == 'x' then
      let ds := digitsAt 16 2 rest
      if ds.length < 2 then throw (.byteEscape position)
      return (valueIn 16 ds).toUInt8 :: (← bytesFrom fuel (position + 4) (rest.drop 2))
    let octal := digitsAt 8 3 (c :: rest)
    if octal.isEmpty then
      return 92 :: c.toNat.toUInt8 :: (← bytesFrom fuel (position + 2) rest)
    return (valueIn 8 octal).toUInt8 ::
      (← bytesFrom fuel (position + 1 + octal.length) ((c :: rest).drop octal.length))
  | fuel + 1, c :: rest => do
    return c.toNat.toUInt8 :: (← bytesFrom fuel (position + 1) rest)

def codes (l : Literal) : Except Cause Text.Codes :=
  if l.isRaw then .ok (Text.Codes.ofChars l.body) else codesFrom l.body.length 0 l.body

def bytes (l : Literal) : Except Cause (List UInt8) :=
  if l.body.any (·.toNat ≥ 128) then .error .byteCharacter
  else if l.isRaw then .ok (l.body.map (·.toNat.toUInt8))
  else bytesFrom l.body.length 0 l.body

def valueOf (codes : Text.Codes) : Value :=
  match codes.chars? with
  | some cs => .text (String.ofList cs)
  | none => .codes codes

def value (ls : List Literal) : Except Cause Value :=
  if ls.all isBytes then do
    return .bytes (← ls.mapM bytes).flatten
  else if ls.any isBytes then .error .mixedTexts
  else do
    return valueOf (← ls.mapM codes).flatten

example : (value [⟨[], "a\\x41".toList⟩, ⟨['r'], "\\n".toList⟩]).toOption.map Value.quote =
    some "'aA\\\\n'" := by decide +kernel

end Literal

end Rollout.Log.Expression
