import Rollout.Text.Printable

/-!
Quoted text, the form in which messages show a value that a user wrote.

A text stands between apostrophes, or between double quotes when it holds an apostrophe and no
double quote. The quote and the backslash are escaped by a backslash, line ends and the tab by a
letter, and every other character that is not shown by its code in hexadecimal. A row of bytes is
quoted by the same rule over the bytes, with everything beyond ASCII's graphic characters escaped.
-/

set_option autoImplicit false
set_option relaxedAutoImplicit false

namespace Rollout.Text

def hex (width n : Nat) : List Char :=
  let digits := Nat.toDigits 16 n
  List.replicate (width - digits.length) '0' ++ digits

def apostrophe : Char := '\x27'

def quoteFor (cs : List Char) : Char :=
  if cs.contains apostrophe && !cs.contains '"' then '"' else apostrophe

/-- The escape by code: two, four or eight hexadecimal digits, the fewest that fit. -/
def codeEscape (n : Nat) : List Char :=
  if n < 0x100 then '\\' :: 'x' :: hex 2 n
  else if n < 0x10000 then '\\' :: 'u' :: hex 4 n
  else '\\' :: 'U' :: hex 8 n

def escape (quote c : Char) : List Char :=
  if c == quote || c == '\\' then ['\\', c]
  else if c == '\n' then ['\\', 'n']
  else if c == '\r' then ['\\', 'r']
  else if c == '\t' then ['\\', 't']
  else if isPrintable c then [c]
  else codeEscape c.toNat

def quoted (s : String) : String :=
  let cs := s.toList
  let quote := quoteFor cs
  String.ofList (quote :: cs.flatMap (escape quote) ++ [quote])

def quotedBytes (bs : List UInt8) : String :=
  let cs := bs.map fun b => Char.ofNat b.toNat
  let quote := quoteFor cs
  let one (c : Char) : List Char := if c.toNat < 128 then escape quote c else codeEscape c.toNat
  String.ofList ('b' :: quote :: cs.flatMap one ++ [quote])

def ascii (s : String) : String :=
  String.ofList (s.toList.flatMap fun c => if c.toNat < 128 then [c] else codeEscape c.toNat)

example : quoted "it's" = "\"it's\"" := by decide +kernel

example : quoted "a\n\\\u200b" = "'a\\n\\\\\\u200b'" := by decide +kernel

end Rollout.Text
