import Rollout.Text.Blank

/-!
Wrapping of texts.

A line may end at a space, which is dropped there, and behind a hyphen that stands between letters.
Each line takes as much as fits into its width. What fits into no line has one of its own.
-/

set_option autoImplicit false
set_option relaxedAutoImplicit false

namespace Rollout.Text

def consPiece (c : Char) : List (List Char) → List (List Char)
  | [] => [[c]]
  | piece :: pieces => (c :: piece) :: pieces

/-- Cut a text into spaces, each alone, and the parts of words that stay together: a word may be
cut behind a hyphen that has two letters on either side. -/
def unbroken : List Char → List (List Char)
  | [] => []
  | ' ' :: rest => [' '] :: unbroken rest
  | [c] => [[c]]
  | c :: ' ' :: rest => [c] :: unbroken (' ' :: rest)
  | a :: b :: '-' :: c :: d :: rest =>
    let cut := a.isAlpha && b.isAlpha && c.isAlpha && d.isAlpha
    if cut then [a, b, '-'] :: unbroken (c :: d :: rest)
    else consPiece a (unbroken (b :: '-' :: c :: d :: rest))
  | a :: rest => consPiece a (unbroken rest)

/-- A line, unless nothing is on it; spaces at its end are dropped. -/
def ended (line : List Char) : List (List Char) :=
  let line := trimEnd line
  if line.isEmpty then [] else [line]

def fillLines (width : Nat) (line : List Char) : List (List Char) → List (List Char)
  | [] => ended line
  | piece :: rest =>
    if line.length + piece.length ≤ width then fillLines width (line ++ piece) rest
    else ended line ++ fillLines width (if piece == [' '] then [] else piece) rest

def wrap (width : Nat) (text : String) : List String :=
  (fillLines width [] (unbroken text.toList)).map String.ofList

example : wrap 16 "Run only the deploy-rewards step" =
    ["Run only the", "deploy-rewards", "step"] := by decide +kernel

example : wrap 12 "Run the deploy-and-test sequence" =
    ["Run the", "deploy-and-", "test", "sequence"] := by decide +kernel

end Rollout.Text
