import Rollout.Text.Quoted

/-!
How things are used as they cannot be used, told by the names of their kinds.
-/

set_option autoImplicit false
set_option relaxedAutoImplicit false

namespace Rollout.Log

/-- Why the arguments of a call do not fit its callee, whose name is told. -/
inductive Mismatch
  | notRow (kind : String)
  | notMapping (kind : String)
  | namesNotText
  | unknownName (name : String)
  | nameTwice (name : String)
  | namedTwice (name : String)
  | tooMany (least most given : Nat)
  | aboveOne (given : Nat)
  | missing (names : List String)
  deriving DecidableEq, Repr

namespace Mismatch

def listed (names : List String) : String :=
  let quoted := names.map Text.quoted
  match quoted.reverse with
  | [] => ""
  | [name] => name
  | [last, first] => s!"{first} and {last}"
  | last :: others => ", ".intercalate others.reverse ++ s!", and {last}"

def counted (n : Nat) : String :=
  s!"{n} positional argument" ++ if n = 1 then "" else "s"

/-- The text of a mismatch; `callee` is the full name of the callee and `owner` its own name. -/
def message (callee owner : String) : Mismatch → String
  | .notRow kind => s!"{callee} argument after * must be an iterable, not {kind}"
  | .notMapping kind => s!"{callee} argument after ** must be a mapping, not {kind}"
  | .namesNotText => "keywords must be strings"
  | .unknownName name => s!"{owner} got an unexpected keyword argument {Text.quoted name}"
  | .nameTwice name => s!"{owner} got multiple values for argument {Text.quoted name}"
  | .namedTwice name =>
    s!"{callee} got multiple values for keyword argument {Text.quoted name}"
  | .tooMany least most given =>
    let taken := if least = most then counted most else s!"from {least} to {counted most}"
    s!"{owner} takes {taken} but {given} " ++ if given = 1 then "was given" else "were given"
  | .aboveOne given => s!"{callee} expected at most 1 argument, got {given}"
  | .missing names =>
    s!"{owner} missing {names.length} required positional argument" ++
      (if names.length = 1 then "" else "s") ++ s!": {listed names}"

example : listed ["a", "b", "c"] = "'a', 'b', and 'c'" := by decide +kernel

end Mismatch

inductive Misuse
  | noMembers (kind : String)
  | noEntry (index : Nat)
  | noKey (kind : String)
  | notCallable (kind : String)
  | mismatch (callee owner : String) (why : Mismatch)
  | unordered (sign left right : String)
  | operands (sign left right : String)
  | operand (sign kind : String)
  | notJoined (kind other : String)
  | bytesNotJoined (other : String)
  | notRepeated (kind : String)
  | notSpread (kind : String)
  | notMapping (kind : String)
  | noItems (kind : String)
  | badIndex (row kind : String)
  | textIndex (kind : String)
  | notPath (kind : String)
  | notSearchable (kind : String)
  | searchedText (kind : String)
  | notSoughtText (kind : String)
  | notUnpackable (kind : String)
  | notMode (kind : String)
  | notTextOrNull (name kind : String)
  | notWeight (quoted : String)
  | noLength (kind : String)
  | notLayout (kind : String)
  | notTemplate (kind : String)
  | bytesLayout
  | notName
  | namesLeft
  | notNumeral (kind : String)
  deriving DecidableEq, Repr

def Misuse.message : Misuse → String
  | .noMembers kind => s!"'{kind}' object is not iterable"
  | .noEntry index =>
    s!"cannot convert dictionary update sequence element #{index} to a sequence"
  | .noKey kind => s!"unhashable type: '{kind}'"
  | .notCallable kind => s!"'{kind}' object is not callable"
  | .mismatch callee owner why => why.message callee owner
  | .unordered sign left right =>
    s!"'{sign}' not supported between instances of '{left}' and '{right}'"
  | .operands sign left right =>
    s!"unsupported operand type(s) for {sign}: '{left}' and '{right}'"
  | .operand sign kind => s!"bad operand type for unary {sign}: '{kind}'"
  | .notJoined kind other => s!"can only concatenate {kind} (not \"{other}\") to {kind}"
  | .bytesNotJoined other => s!"can't concat {other} to bytes"
  | .notRepeated kind => s!"can't multiply sequence by non-int of type '{kind}'"
  | .notSpread kind => s!"Value after * must be an iterable, not {kind}"
  | .notMapping kind => s!"'{kind}' object is not a mapping"
  | .noItems kind => s!"'{kind}' object is not subscriptable"
  | .badIndex row kind => s!"{row} indices must be integers or slices, not {kind}"
  | .textIndex kind => s!"string indices must be integers, not '{kind}'"
  | .notPath kind => s!"expected str, bytes or os.PathLike object, not {kind}"
  | .notSearchable kind => s!"argument of type '{kind}' is not iterable"
  | .searchedText kind => s!"'in <string>' requires string as left operand, not {kind}"
  | .notSoughtText kind => s!"must be str, not {kind}"
  | .notUnpackable kind => s!"cannot unpack non-iterable {kind} object"
  | .notMode kind => s!"open() argument 'mode' must be str, not {kind}"
  | .notTextOrNull name kind => s!"open() argument '{name}' must be str or None, not {kind}"
  | .notWeight quoted => s!"Level not an integer or a valid string: {quoted}"
  | .noLength kind => s!"object of type '{kind}' has no len()"
  | .notLayout kind => s!"expected string or bytes-like object, got '{kind}'"
  | .notTemplate kind => s!"expected str, got {kind}"
  | .bytesLayout => "cannot use a string pattern on a bytes-like object"
  | .notName => "A logger name must be a string"
  | .namesLeft => "not all arguments converted during string formatting"
  | .notNumeral kind =>
    s!"int() argument must be a string, a bytes-like object or a real number, not '{kind}'"

end Rollout.Log
