import Rollout.Log.Field

/-!
Layouts in the style of dollar signs.

Behind a dollar sign stands the name of a field, which may stand between braces. A doubled dollar
sign is one.
-/

set_option autoImplicit false
set_option relaxedAutoImplicit false

namespace Rollout.Log.Dollar

inductive Piece
  | char (c : Char)
  | field (name : String)
  | bare
  deriving DecidableEq, Repr

inductive Fault
  | bare
  | noFields
  deriving DecidableEq, Repr

def Fault.message : Fault → String
  | .bare => "bare '$' not allowed"
  | .noFields => "no fields"

/-- The name that stands first in a text: ASCII letters, digits and low lines, no digit first. -/
def nameOf (cs : List Char) : List Char :=
  if cs.head?.any Char.isDigit then [] else cs.takeWhile fun c => c.isAlphanum || c == '_'

def field? (cs : List Char) : Option (String × List Char) :=
  match cs with
  | '\x7b' :: rest =>
    let name := nameOf rest
    match rest.drop name.length with
    | '\x7d' :: rest => if name.isEmpty then none else some (String.ofList name, rest)
    | _ => none
  | _ =>
    let name := nameOf cs
    if name.isEmpty then none else some (String.ofList name, cs.drop name.length)

def pieces (room : Nat) (cs : List Char) : List Piece :=
  match room with
  | 0 => []
  | room + 1 =>
    match cs with
    | [] => []
    | '$' :: '$' :: rest => .char '$' :: pieces room rest
    | '$' :: rest =>
      match field? rest with
      | some (name, rest) => .field name :: pieces room rest
      | none => .bare :: pieces room rest
    | c :: rest => .char c :: pieces room rest

def piecesOf (layout : String) : List Piece := pieces layout.length layout.toList

/-- Check a layout: every dollar sign has a name, and there is a field. -/
def check (layout : String) : Except Fault Unit :=
  let pieces := piecesOf layout
  if pieces.contains .bare then .error .bare
  else if pieces.any fun | .field _ => true | _ => false then .ok ()
  else .error .noFields

/-- The line of a layout; none where a field is missing. -/
def line? (wording : Wording) (fields : Fields) (layout : String) : Option (List Char) := do
  let parts ← (piecesOf layout).mapM fun
    | .char c => some [c]
    | .field name => (fields name).map fun d => (d.shown wording.kind).toList
    | .bare => none
  return parts.flatten

end Rollout.Log.Dollar
