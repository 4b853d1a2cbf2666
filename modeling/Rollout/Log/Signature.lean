import Rollout.Log.Misuse
import Rollout.Log.Thing

/-!
What is taken by the things that can be called.

Arguments stand in a row or have names. Those in the row are for the parameters in their order, and
no parameter may get two. What is not given of the parameters that may be left out stays away.
-/

set_option autoImplicit false
set_option relaxedAutoImplicit false

namespace Rollout.Log

/-- The parameters of something that can be called. -/
structure Signature where
  callee : String
  owner : String
  needed : List String
  others : List String
  named : List String
  deriving DecidableEq, Repr

namespace Signature

def row (signature : Signature) : List String := signature.needed ++ signature.others

def giveNamed (signature : Signature) (given : Entries Thing) :
    List (Thing × Thing) → Except Mismatch (Entries Thing)
  | [] => .ok given
  | (key, thing) :: rest =>
    match key.text? with
    | none => .error .namesNotText
    | some name =>
      if !(signature.row ++ signature.named).contains name then .error (.unknownName name)
      else if given.has name then .error (.nameTwice name)
      else giveNamed signature (given.put name thing) rest

/-- The parameters with what they are given. What calls add before the row counts too. -/
def bind (signature : Signature) (row : List Thing) (named : List (Thing × Thing)) :
    Except Mismatch (Entries Thing) := do
  let given ← signature.giveNamed (signature.row.zip row) named
  if row.length > signature.row.length then
    throw (.tooMany (signature.needed.length + 1) (signature.row.length + 1) (row.length + 1))
  let missing := signature.needed.filter fun name => !given.has name
  if missing.isEmpty then return given else throw (.missing missing)

def fault (signature : Signature) (why : Mismatch) : Misuse :=
  .mismatch signature.callee signature.owner why

def spread (signature : Signature) (row named : Thing) :
    Except Misuse (List Thing × List (Thing × Thing)) :=
  match named.entries? with
  | none => .error (signature.fault (.notMapping named.kind))
  | some entries =>
    match row.members? with
    | none => .error (signature.fault (.notRow row.kind))
    | some items => .ok (items, entries)

end Signature

def givenOr (given : Entries Thing) (name : String) (other : Thing) : Thing :=
  (given.get? name).getD other

end Rollout.Log
