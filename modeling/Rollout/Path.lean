/-!
Paths as text, before any file is looked at.

A path is a root and the components after it. Empty components and single dots vanish, double dots
stay; exactly two leading slashes are a root of their own, and more than two count as one.
-/

set_option autoImplicit false
set_option relaxedAutoImplicit false

namespace Rollout

inductive Root
  | relative
  | absolute
  | doubled
  deriving DecidableEq, Repr, Inhabited

def Root.text : Root → String
  | .relative => ""
  | .absolute => "/"
  | .doubled => "//"

/-- A path: its root and its components. -/
structure Path where
  root : Root
  parts : List String
  deriving DecidableEq, Repr, Inhabited

namespace Path

def pieces : List Char → List (List Char)
  | [] => [[]]
  | c :: cs =>
    if c == '/' then [] :: pieces cs
    else match pieces cs with
      | [] => [[c]]
      | piece :: more => (c :: piece) :: more

def isComponent (piece : List Char) : Bool := piece != [] && piece != ['.']

def components (cs : List Char) : List String :=
  ((pieces cs).filter isComponent).map String.ofList

def rootOf : List Char → Root
  | '/' :: '/' :: '/' :: _ => .absolute
  | '/' :: '/' :: _ => .doubled
  | '/' :: _ => .absolute
  | _ => .relative

def ofString (s : String) : Path := ⟨rootOf s.toList, components s.toList⟩

/-- The text of a path; the path without root and components is a dot. -/
def toString (p : Path) : String :=
  if p.root = .relative ∧ p.parts = [] then "." else p.root.text ++ "/".intercalate p.parts

instance : ToString Path := ⟨Path.toString⟩

def isAbsolute (p : Path) : Bool := p.root != .relative

/-- The second path seen from the first: itself where it has a root, else its components after
those of the first. -/
def join (p q : Path) : Path :=
  if q.isAbsolute then q else ⟨p.root, p.parts ++ q.parts⟩

def child (p : Path) (name : String) : Path := ⟨p.root, p.parts ++ [name]⟩

def top : Path := ⟨.absolute, []⟩

def bare : Path := ⟨.relative, []⟩

/-- The path one step up, for a path that holds double dots at its start only: the top stays the
top, and where a relative path has no more names to drop it gets one more double dot. -/
def above (p : Path) : Path :=
  if p.root = .relative ∧ p.parts.getLast?.all (· = "..") then p.child ".."
  else ⟨p.root, p.parts.dropLast⟩

/-- Two texts with one slash between them; a text that starts at the top stands alone. -/
def joinText (front back : String) : String :=
  if back.startsWith "/" then back
  else if front.endsWith "/" then front ++ back
  else front ++ "/" ++ back

/-- The part of the last component from its last dot on; a dot at either end of the component does
not count. -/
def suffix (p : Path) : String :=
  match p.parts.getLast? with
  | none => ""
  | some name =>
    let backwards := name.toList.reverse
    let tail := backwards.takeWhile (· != '.')
    let front := (backwards.dropWhile (· != '.')).drop 1
    if tail.isEmpty || front.isEmpty then "" else String.ofList ('.' :: tail.reverse)

example : (ofString "a//b/./c/").toString = "a/b/c" := by decide

example : (ofString "").toString = "." ∧ (ofString "//a").toString = "//a" ∧
    (ofString "///a").toString = "/a" := by decide

example : (ofString "x/my.INI").suffix = ".INI" ∧ (ofString ".env").suffix = "" := by decide

end Path

end Rollout
