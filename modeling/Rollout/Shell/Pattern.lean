/-!
Patterns of the shell: an asterisk stands for any text, a question mark for any character, and a
bracket for one of some characters.
-/

set_option autoImplicit false
set_option relaxedAutoImplicit false

namespace Rollout.Shell

inductive Atom
  | char (c : Char)
  | one
  | any
  | range (negated : Bool) (ranges : List (Char × Char))
  deriving DecidableEq, Repr

abbrev Pattern := List Atom

namespace Pattern

/-- The ranges between brackets, up to the closing one, and the cells behind it. A cell is a
character, and whether it is quoted. -/
def ranges (room : Nat) (first : Bool) (cells : List (Char × Bool)) :
    Option (List (Char × Char) × List (Char × Bool)) :=
  match room with
  | 0 => none
  | room + 1 =>
    let add (low high : Char) (rest : List (Char × Bool)) :
        Option (List (Char × Char) × List (Char × Bool)) :=
      (ranges room false rest).map fun (found, rest) => ((low, high) :: found, rest)
    match cells with
    | [] => none
    | (']', false) :: rest => if first then add ']' ']' rest else some ([], rest)
    | (low, _) :: ('-', false) :: (high, shielded) :: rest =>
      if high == ']' && !shielded then add low low (('-', false) :: (high, shielded) :: rest)
      else add low high rest
    | (c, _) :: rest => add c c rest

/-- The pattern of cells; quoted characters stand for themselves. -/
def ofCells (room : Nat) (cells : List (Char × Bool)) : Pattern :=
  match room with
  | 0 => []
  | room + 1 =>
    match cells with
    | [] => []
    | ('*', false) :: rest => .any :: ofCells room rest
    | ('?', false) :: rest => .one :: ofCells room rest
    | ('[', false) :: rest =>
      let negated := rest.head? = some ('!', false) || rest.head? = some ('^', false)
      let inner := if negated then rest.drop 1 else rest
      match ranges (inner.length + 1) true inner with
      | some (found, rest) => .range negated found :: ofCells room rest
      | none => .char '[' :: ofCells room rest
    | (c, _) :: rest => .char c :: ofCells room rest

def isOpen (pattern : Pattern) : Bool := pattern.any fun | .char _ => false | _ => true

def holds : Pattern → List Char → Bool
  | [], cs => cs.isEmpty
  | .any :: rest, [] => holds rest []
  | .any :: rest, c :: cs => holds rest (c :: cs) || holds (.any :: rest) cs
  | _ :: _, [] => false
  | .char x :: rest, c :: cs => x == c && holds rest cs
  | .one :: rest, _ :: cs => holds rest cs
  | .range negated ranges :: rest, c :: cs =>
    (ranges.any fun (low, high) => low ≤ c && c ≤ high) != negated && holds rest cs
  termination_by pattern cs => (pattern.length, cs.length)

/-- A text without the shortest or longest start, or end, that has the form of a pattern. -/
def strip (pattern : Pattern) (atEnd longest : Bool) (cs : List Char) : List Char :=
  let cuts := List.range (cs.length + 1)
  let cuts := if atEnd = longest then cuts else cuts.reverse
  let isCut (n : Nat) : Bool := pattern.holds (if atEnd then cs.drop n else cs.take n)
  match cuts.find? isCut with
  | none => cs
  | some n => if atEnd then cs.take n else cs.drop n

example : strip [.char '/', .any] true false "a/b/c".toList = "a/b".toList := by cbv

example : strip [.any, .char '/'] false true "a/b/c".toList = "c".toList := by cbv

end Pattern

end Rollout.Shell
