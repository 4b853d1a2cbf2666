import Rollout.Disk
import Rollout.Shell.Pattern

/-!
From an expanded word to fields.

An expanded word is a row of cells. What came out of an expansion outside quotes is loose, and
separators cut it; what was quoted is shielded, and is no pattern. A field that is a pattern of
paths is replaced by the paths that there are.
-/

set_option autoImplicit false
set_option relaxedAutoImplicit false

namespace Rollout.Shell

inductive Cell
  | char (c : Char) (shielded loose : Bool)
  | mark
  | cut
  deriving DecidableEq, Repr

/-- A field: characters, and whether each is shielded. -/
abbrev Field := List (Char × Bool)

namespace Cell

def ofText (shielded loose : Bool) (text : String) : List Cell :=
  text.toList.map (.char · shielded loose)

/-- The characters of cells. A cut is a blank. -/
def field (cells : List Cell) : Field :=
  cells.filterMap fun
    | .char c shielded _ => some (c, shielded)
    | .mark => none
    | .cut => some (' ', true)

def text (cells : List Cell) : String := String.ofList ((field cells).map (·.1))

def isGap (separators : List Char) (c : Char) : Bool :=
  separators.contains c && (c == ' ' || c == '\t' || c == '\n')

structure Cutting where
  done : List Field
  current : Field
  isOpen : Bool
  ended : Bool

def Cutting.close (cutting : Cutting) (ended : Bool) : Cutting :=
  ⟨cutting.current.reverse :: cutting.done, [], false, ended⟩

def Cutting.step (separators : List Char) (cutting : Cutting) : Cell → Cutting
  | .mark => { cutting with isOpen := true, ended := false }
  | .cut => if cutting.isOpen then cutting.close false else { cutting with ended := false }
  | .char c shielded loose =>
    if loose && separators.contains c then
      if isGap separators c then
        if cutting.isOpen then cutting.close true else cutting
      else if cutting.ended then { cutting with ended := false }
      else cutting.close false
    else
      { cutting with current := (c, shielded) :: cutting.current, isOpen := true, ended := false }

def fields (separators : List Char) (cells : List Cell) : List Field :=
  let cutting := cells.foldl (Cutting.step separators) ⟨[], [], false, false⟩
  (if cutting.isOpen then (cutting.close false).done else cutting.done).reverse

end Cell

namespace Field

def text (field : Field) : String := String.ofList (field.map (·.1))

def pattern (field : Field) : Pattern := Pattern.ofCells (field.length + 1) field

def pieces (field : Field) : List Field :=
  let (done, last) := field.foldr (fun cell ((done : List Field), (last : Field)) =>
    if cell.1 == '/' then (last :: done, []) else (done, cell :: last)) ([], [])
  last :: done

/-- The paths that start with a text, lead on from a place, and have the form of pieces. -/
def pathsFrom (disk : Disk) (base : Place) (start : String) : List Field → List String
  | [] => [start]
  | piece :: rest =>
    let between := if rest.isEmpty then "" else "/"
    if piece.pattern.isOpen then
      match disk.find base (if start.isEmpty then "." else start) with
      | .ok (place, .directory _) =>
        let dotted := piece.head?.map (·.1) = some '.'
        let names := (disk.namesIn place).filter fun name =>
          piece.pattern.holds name.toList && (dotted || !name.startsWith ".")
        (names.mergeSort fun a b => !decide (b < a)).flatMap fun name =>
          pathsFrom disk base (start ++ name ++ between) rest
      | _ => []
    else pathsFrom disk base (start ++ piece.text ++ between) rest

/-- The paths of the form of a field; the field's text if there are none or it is no pattern. -/
def paths (disk : Disk) (base : Place) (field : Field) : List String :=
  if field.pattern.isOpen then
    let found := (pathsFrom disk base "" field.pieces).filter fun path =>
      (disk.find base path).toOption.isSome
    if found.isEmpty then [field.text] else found
  else [field.text]

end Field

example : (Cell.fields [' ', ','] (Cell.ofText false true " a ,b,,c ")).map Field.text =
    ["a", "b", "", "c"] := by decide +kernel

end Rollout.Shell
