import Rollout.Text.Utf8
import Rollout.Value.Fault

/-!
Tokens of documents, and why a document cannot be read.
-/

set_option autoImplicit false
set_option relaxedAutoImplicit false

namespace Rollout.Yaml

/-- Why a document cannot be read. -/
inductive Fault
  | malformed
  | value (fault : Value.Fault)
  | undecodable (fault : Text.Utf8.Fault)
  deriving DecidableEq, Repr

def malformedText : String := "<yaml error>"

inductive Directive
  | version (major : Int)
  | tag (handle lead : List Char)
  | other
  deriving DecidableEq, Repr

inductive Token
  | streamEnd
  | directive (directive : Directive)
  | documentStart
  | documentEnd
  | blockSequenceStart
  | blockMappingStart
  | blockEnd
  | flowSequenceStart
  | flowMappingStart
  | flowSequenceEnd
  | flowMappingEnd
  | blockEntry
  | flowEntry
  | key
  | value
  | alias (name : List Char)
  | anchor (name : List Char)
  | tag (handle : Option (List Char)) (suffix : List Char)
  | scalar (codes : Text.Codes) (plain : Bool)
  deriving DecidableEq, Repr, Inhabited

end Rollout.Yaml
