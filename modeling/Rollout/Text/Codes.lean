import Rollout.Text.Quoted

/-!
Texts as rows of code points.

A code point may be one half of a pair, which is no character. A text that holds such halves can be
quoted as it is. Everywhere else texts are made of characters, and a sign of replacement stands for
each half: what is told, sorted, split into words or run of such a text has the sign in its place, so
that two texts that differ in their halves only are told alike.
-/

set_option autoImplicit false
set_option relaxedAutoImplicit false

namespace Rollout.Text

abbrev Codes := List Nat

namespace Codes

def ofChars (cs : List Char) : Codes := cs.map Char.toNat

def ofText (s : String) : Codes := ofChars s.toList

def char? (n : Nat) : Option Char := if n.isValidChar then some (Char.ofNat n) else none

/-- The characters of code points, where all of them are characters. -/
def chars? (codes : Codes) : Option (List Char) := codes.mapM char?

/-- The text of code points; a sign of replacement stands for each that is no character. -/
def text (codes : Codes) : String :=
  String.ofList (codes.map fun n => (char? n).getD '\uFFFD')

/-- The rest behind the code points of a text, where they start with it. -/
def cut? (start : String) (codes : Codes) : Option Codes :=
  let lead := ofText start
  if lead.isPrefixOf codes then some (codes.drop lead.length) else none

def quoted (codes : Codes) : String :=
  let quote := quoteFor (codes.filterMap char?)
  let one (n : Nat) : List Char :=
    match char? n with
    | some c => escape quote c
    | none => codeEscape n
  String.ofList (quote :: codes.flatMap one ++ [quote])

example : quoted [0x61, 0xD834] = "'a\\ud834'" := by decide +kernel

end Codes

end Rollout.Text
