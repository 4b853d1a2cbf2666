/-!
Rows cut at separators.

The pieces of a row are what stands between its separators, empty pieces included; so there is one
piece more than there are separators.
-/

set_option autoImplicit false
set_option relaxedAutoImplicit false

namespace Rollout.Text

def pieces {α : Type} [BEq α] (separator : α) : List α → List (List α)
  | [] => [[]]
  | c :: rest =>
    if c == separator then [] :: pieces separator rest
    else match pieces separator rest with
      | [] => [[c]]
      | piece :: more => (c :: piece) :: more

/-- The pieces of a text between separators. -/
def piecesOf (separator : Char) (s : String) : List String :=
  (pieces separator s.toList).map String.ofList

example : piecesOf '.' "a..b" = ["a", "", "b"] := by decide +kernel

end Rollout.Text
