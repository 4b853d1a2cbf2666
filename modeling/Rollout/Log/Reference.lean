import Rollout.Log.Names
import Rollout.Log.Setup
import Rollout.Text.Blank

/-!
Texts of settings that refer to something else.

A text that starts with `ext` and a colon with two slashes names a thing by its dotted name, and one
that starts with `cfg` leads through the settings themselves: the first word names an entry of
theirs, and each further part an item in what the parts before it lead to.
-/

set_option autoImplicit false
set_option relaxedAutoImplicit false

namespace Rollout.Log

namespace Reference

open Setup (fail refuse ofFault)

/-- The parts of a text that refers to something: the word before the colon and what is behind the
slashes, without a line feed at the end. -/
def parts? (text : List Char) : Option (String × List Char) :=
  let isSmall (c : Char) : Bool := 'a' ≤ c && c ≤ 'z'
  match text.dropWhile isSmall with
  | ':' :: '/' :: '/' :: rest =>
    let word := text.takeWhile isSmall
    let rest := if rest.getLast? = some '\n' then rest.dropLast else rest
    if word.isEmpty || rest.contains '\n' then none else some (String.ofList word, rest)
  | _ => none

def word? (text : List Char) : Option (String × List Char) :=
  let text := text.dropWhile Text.isBlank
  let word := text.takeWhile Text.isWordChar
  if word.isEmpty then none
  else some (String.ofList word, (text.dropWhile Text.isWordChar).dropWhile Text.isBlank)

structure Leg where
  name : String
  isInBrackets : Bool
  deriving DecidableEq, Repr

def leg? (way : List Char) : Option (Leg × List Char) :=
  match way with
  | '.' :: rest => (word? rest).map fun (name, rest) => (⟨name, false⟩, rest)
  | '[' :: rest =>
    match word? rest with
    | some (name, ']' :: rest) => some (⟨name, true⟩, rest.dropWhile Text.isBlank)
    | _ => none
  | _ => none

def item (thing : Thing) (leg : Leg) : Except SetupFault Thing :=
  let named := thing.item (.text leg.name)
  if leg.isInBrackets && leg.name.toList.all Text.isDecimalDigit then
    match thing.item (.whole ((Number.whole? 10 leg.name).getD 0)) with
    | .error (.misuse _) => named
    | answer => answer
  else named

def resolve (name : Thing) : Setup Thing :=
  match name.text? with
  | none => fail (.noPart s!"'{name.kind}' object" "split")
  | some text =>
    match Names.resolve text with
    | .ok thing => pure thing
    | .error (.noModule inner outer) =>
      refuse (.unresolved text (SetupFault.noModule inner outer).message)
    | .error fault => fail fault

mutual

/-- What a thing refers to, or else the thing itself. `fuel` bounds how often references lead on. -/
def follow : Nat → Thing → Setup Thing
  | 0, _ => fail .endless
  | fuel + 1, thing =>
    match thing.text?.bind (parts? ·.toList) with
    | some ("ext", name) => resolve (.text (String.ofList name))
    | some ("cfg", way) =>
      match word? way with
      | none => refuse (.notReference (String.ofList way) none)
      | some (name, rest) => do
        let settings := (← get).settings
        let thing ← ofFault (Thing.item (.map settings) (.text name))
        walk fuel (String.ofList way) (← follow fuel thing) rest
    | _ => pure thing

def walk : Nat → String → Thing → List Char → Setup Thing
  | 0, _, _, _ => fail .endless
  | fuel + 1, whole, thing, rest =>
    if rest.isEmpty then pure thing
    else match leg? rest with
      | none => refuse (.notReference whole (some (String.ofList rest)))
      | some (leg, rest) => do
        let inner ← ofFault (item thing leg)
        let inner ← if thing.kind == "str" then pure inner else follow fuel inner
        walk fuel whole inner rest

end

def limit : Nat := 240

example : leg? "[ 10 ].b".toList = some (⟨"10", true⟩, ".b".toList) := by decide +kernel

end Reference

/-- The thing that is meant: what a thing refers to, or else the thing itself. -/
def Setup.meant (thing : Thing) : Setup Thing := Reference.follow Reference.limit thing

end Rollout.Log
