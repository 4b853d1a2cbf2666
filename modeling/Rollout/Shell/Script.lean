/-!
Scripts of the shell, as they are read.

A word is a row of parts that are put together when the word is expanded. A script is built from
simple commands, which carry the number of their line.
-/

set_option autoImplicit false
set_option relaxedAutoImplicit false

namespace Rollout.Shell

inductive Direction
  | read
  | write
  | append
  | share
  | document
  deriving DecidableEq, Repr

mutual

inductive Part
  | plain (text : String)
  | quoted (text : String)
  | double (parts : List Part)
  | parameter (name : String) (change : Change)
  | output (script : Script)
  | sum (parts : List Part)

/-- What is done with a parameter. With `orEmpty`, an empty one counts as unset. -/
inductive Change
  | none
  | length
  | default (orEmpty : Bool) (word : List Part)
  | assign (orEmpty : Bool) (word : List Part)
  | replace (orEmpty : Bool) (word : List Part)
  | demand (orEmpty : Bool) (word : List Part)
  | strip (atEnd longest : Bool) (pattern : List Part)

inductive Redirection
  | mk (channel : Nat) (direction : Direction) (target : List Part)

inductive Script
  | simple (line : Nat) (settings : List (String × List Part)) (words : List (List Part))
      (redirections : List Redirection)
  | pipeline (scripts : List Script)
  | negated (script : Script)
  | both (first second : Script)
  | either (first second : Script)
  | sequence (scripts : List Script)
  | background (script : Script)
  | subshell (script : Script) (redirections : List Redirection)
  | group (script : Script) (redirections : List Redirection)
  | branch (condition yes no : Script)
  | loop (untilTrue : Bool) (condition body : Script)
  | each (name : String) (words : Option (List (List Part))) (body : Script)
  | choice (word : List Part) (cases : List (List (List Part) × Script))
  | define (name : String) (body : Script)

end

instance : Inhabited Script := ⟨.sequence []⟩

abbrev Word := List Part

namespace Part

/-- The text of a word that has no quotes and nothing to expand. -/
def plainText? : Word → Option String
  | [.plain text] => some text
  | _ => none

end Part

end Rollout.Shell
