import Rollout.Fault
import Rollout.Value

/-!
What messages and their layouts show: values, paths, faults and rows of these.

Like a value a datum has a shown text and a quoted text. The quoted text of a fault starts with the
name of its kind, for which the surroundings have the word.
-/

set_option autoImplicit false
set_option relaxedAutoImplicit false

namespace Rollout

inductive Datum
  | value (v : Value)
  | path (p : Path)
  | fault (f : Fault)
  | row (items : List Datum)

namespace Datum

def text (s : String) : Datum := .value (.text s)

def whole (i : Int) : Datum := .value (.int i)

def quotedPath (p : Path) : String := s!"PosixPath({Text.quoted p.toString})"

def quotedCause : Fault → String
  | .disk f => s!"{f.cause.number}, {Text.quoted f.cause.words}"
  | f => Text.quoted f.message

mutual

/-- The quoted text of a datum; `kind` names the kinds of faults. -/
def quote (kind : Fault → String) : Datum → String
  | .value v => v.quote
  | .path p => quotedPath p
  | .fault f => s!"{kind f}({quotedCause f})"
  | .row items =>
    match quoteAll kind items with
    | [item] => s!"({item},)"
    | texts => "(" ++ ", ".intercalate texts ++ ")"

def quoteAll (kind : Fault → String) : List Datum → List String
  | [] => []
  | item :: items => quote kind item :: quoteAll kind items

end

def shown (kind : Fault → String) : Datum → String
  | .value v => v.shown
  | .path p => p.toString
  | .fault f => f.message
  | d => d.quote kind

end Datum

end Rollout
