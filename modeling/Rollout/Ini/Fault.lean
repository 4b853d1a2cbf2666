import Rollout.Text.Quoted

/-!
Why a text is no INI document, and why a value of one cannot be had.
-/

set_option autoImplicit false
set_option relaxedAutoImplicit false

namespace Rollout.Ini

/-- Faults of INI documents; `source` stands for the file of a document. -/
inductive Fault
  | sectionTwice (source : String) (line : Nat) (name : String)
  | optionTwice (source : String) (line : Nat) (name option : String)
  | noHeader (source : String) (line : Nat) (text : String)
  | unreadable (source : String) (lines : List (Nat × String))
  | unknownReference (name option reference raw : String)
  | endlessReference (name option raw : String)
  | badReference (rest : String)
  | lonePercent (rest : String)
  deriving DecidableEq, Repr

/-- How often options may refer to others, one behind the other. -/
def referenceLimit : Nat := 10

def lineMark (line : Nat) : String :=
  let digits := toString line
  "[line " ++ (if digits.length < 2 then " " else "") ++ digits ++ "]"

def placeOf (name option : String) : String :=
  s!"option {Text.quoted option} in section {Text.quoted name}"

def Fault.message : Fault → String
  | .sectionTwice source line name =>
    s!"While reading from {source} {lineMark line}: " ++
      s!"section {Text.quoted name} already exists"
  | .optionTwice source line name option =>
    s!"While reading from {source} {lineMark line}: {placeOf name option} already exists"
  | .noHeader source line text =>
    s!"File contains no section headers.\nfile: {source}, line: {line}\n" ++
      Text.quoted text
  | .unreadable source lines =>
    s!"Source contains parsing errors: {source}" ++
      String.join (lines.map fun (line, text) => s!"\n\t{lineMark line}: {Text.quoted text}")
  | .unknownReference name option reference raw =>
    s!"Bad value substitution: {placeOf name option} contains an interpolation key " ++
      s!"{Text.quoted reference} which is not a valid option name. Raw value: {Text.quoted raw}"
  | .endlessReference name option raw =>
    s!"Recursion limit exceeded in value substitution: {placeOf name option} contains an " ++
      s!"interpolation key which cannot be substituted in {referenceLimit} steps. " ++
      s!"Raw value: {Text.quoted raw}"
  | .badReference rest => s!"bad interpolation variable reference {Text.quoted rest}"
  | .lonePercent rest => s!"'%' must be followed by '%' or '(', found: {Text.quoted rest}"

end Rollout.Ini
