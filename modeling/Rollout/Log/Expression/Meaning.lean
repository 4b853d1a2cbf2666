import Rollout.Log.Calling
import Rollout.Log.Thing.Arithmetic

/-!
What expressions stand for.

A name stands for what the module of loggers holds under it, or else for what can be named
everywhere. The parts of an expression are looked at from left to right, and those that do not count
are not looked at.
-/

set_option autoImplicit false
set_option relaxedAutoImplicit false

namespace Rollout.Log

namespace Meaning

open Setup (fail misuse need ofMisuse ofFault)

def under? (entries : List (String × Thing)) (name : String) : Option Thing :=
  (entries.find? (·.1 == name)).map (·.2)

def named (name : String) : Setup Thing :=
  need (.noName name) ((under? Names.homeEntries name).or (under? Names.commonEntries name))

def streamParts : List String := [
  "close", "closed", "detach", "encoding", "errors", "fileno", "flush", "getvalue", "isatty",
  "line_buffering", "newlines", "read", "readable", "readline", "readlines", "seek", "seekable",
  "tell", "truncate", "writable", "write", "writelines"]

def subject (thing : Thing) : String :=
  match thing with
  | .module name => s!"module {Text.quoted (Names.fullModule name)}"
  | .maker maker => s!"type object {Text.quoted maker.ownName}"
  | thing => s!"'{thing.kind}' object"

def partOf? (thing : Thing) (name : String) : Option Thing :=
  match thing with
  | .module module =>
    (Names.part? thing name).or
      (if (Names.entriesOf module).isEmpty then some (.function name) else none)
  | .stream _ => if streamParts.contains name then some (.function name) else none
  | _ => none

def part (thing : Thing) (name : String) : Setup Thing := do
  let environment := (← get).environment
  let known? : Option Thing :=
    match thing, name with
    | .module "os", "environ" =>
      some (.map (environment.map fun (name, text) => (.text name, .text text)))
    | _, _ => partOf? thing name
  need (.noPart (subject thing) name) known?

/-! ### Members and entries -/

def spread (thing : Thing) : Setup (List Thing) :=
  match thing.members? with
  | some items => pure items
  | none => misuse (.notSpread thing.kind)

def isMembers : Expression → Bool
  | .members _ => true
  | _ => false

def isLone : List Expression → Bool
  | [e] => isMembers e
  | _ => false

/-- The entries that a thing adds to those of a mapping; one that has no key has to be a mapping. -/
def addEntries (entries : List (Thing × Thing)) (key? : Option Thing) (thing : Thing) :
    Setup (List (Thing × Thing)) :=
  match key?, thing.entries? with
  | some key, _ => return entries ++ [(key, thing)]
  | none, some more => return entries ++ more
  | none, none => misuse (.notMapping thing.kind)

/-- The named arguments of a call with another one, or with all entries of a mapping. -/
def addNamed (callee : Thing) (given : List (Thing × Thing)) (name? : Option String)
    (thing : Thing) : Setup (List (Thing × Thing)) := do
  let bad (why : Mismatch) : Misuse := .mismatch (Calling.calleeName callee) "" why
  match name?, thing.entries? with
  | some name, _ => return given ++ [(.text name, thing)]
  | none, none => misuse (bad (.notMapping thing.kind))
  | none, some more =>
    match more.find? fun entry => given.any (·.1.sameKey entry.1) with
    | none => return given ++ more
    | some (key, _) =>
      misuse (bad (match key.text? with
        | some name => .namedTwice name
        | none => .namesNotText))

/-! ### Comparisons -/

def isIn (thing whole : Thing) : Except Misuse Bool :=
  match whole.codes?, whole.entries?, whole.members? with
  | some codes, _, _ =>
    match thing.codes? with
    | some part => .ok ((List.range (codes.length + 1)).any fun n => part.isPrefixOf (codes.drop n))
    | none => .error (.searchedText thing.kind)
  | none, some entries, _ => do
    thing.checkKey
    return entries.any (·.1.sameKey thing)
  | none, none, some items => .ok (items.any thing.same)
  | none, none, none => .error (.notSearchable whole.kind)

def isOne (a b : Thing) : Bool := a.kind == b.kind && a.sameKey b

def holds (relation : Relation) (a b : Thing) : Except Misuse Bool :=
  let ordered (fits : Ordering → Bool) : Except Misuse Bool :=
    (Thing.orderIn relation.sign Thing.orderDepth a b).map fun order => order.any fits
  match relation with
  | .equal => .ok (a.same b)
  | .unequal => .ok !(a.same b)
  | .less => ordered (·.isLT)
  | .atMost => ordered (·.isLE)
  | .greater => ordered (·.isGT)
  | .atLeast => ordered (·.isGE)
  | .same => .ok (isOne a b)
  | .notSame => .ok !(isOne a b)
  | .isMember => isIn a b
  | .notMember => (isIn a b).map (!·)

end Meaning

namespace Expression

open Setup (ofMisuse ofFault)

mutual

def meaning : Expression → Setup Thing
  | .constant v => return .value v
  | .ellipsis => return .other "ellipsis"
  | .identifier name => Meaning.named name
  | .tuple items => return .tuple (← meanings Meaning.spread items)
  | .list items => return .list (← meanings Meaning.spread items)
  | .set items => do Collection.setOf (← meanings Collection.members items)
  | .map entries => do Collection.mapOf (← entryMeanings [] entries)
  | .members e => meaning e
  | .part e name => do Meaning.part (← meaning e) name
  | .item e index => do
    let thing ← meaning e
    ofFault (thing.item (← meaning index))
  | .call callee row named => do
    let callee ← meaning callee
    let lone := Meaning.isLone row
    let things ← meanings (if lone then fun thing => pure [thing] else Meaning.spread) row
    let named ← namedMeanings callee [] named
    Calling.callWith callee (if lone then things.headD .nothing else .tuple things) (.map named)
  | .choice condition yes no => do
    if (← meaning condition).isGiven then meaning yes else meaning no
  | .first a b => do
    let thing ← meaning a
    if thing.isGiven then return thing else meaning b
  | .second a b => do
    let thing ← meaning a
    if thing.isGiven then meaning b else return thing
  | .negation e => return .value (.bool !(← meaning e).isGiven)
  | .comparison e rest => do comparisonMeaning (← meaning e) rest
  | .signed sign e => do ofMisuse ((← meaning e).signed sign)
  | .joined joint a b => do
    let first ← meaning a
    ofExcept (Thing.join joint first (← meaning b))

/-- What expressions stand for; `spread` tells the members that some stand for. -/
def meanings (spread : Thing → Setup (List Thing)) : List Expression → Setup (List Thing)
  | [] => return []
  | e :: rest => do
    let thing ← meaning e
    let things ← if Meaning.isMembers e then spread thing else pure [thing]
    return things ++ (← meanings spread rest)

def entryMeanings (made : List (Thing × Thing)) :
    List (Option Expression × Expression) → Setup (List (Thing × Thing))
  | [] => return made
  | entry :: rest => do entryMeanings (← entryMeaning made entry) rest

def entryMeaning (made : List (Thing × Thing)) :
    Option Expression × Expression → Setup (List (Thing × Thing))
  | (key, e) => do
    let key ← keyMeaning key
    Meaning.addEntries made key (← meaning e)

def keyMeaning : Option Expression → Setup (Option Thing)
  | none => return none
  | some e => return some (← meaning e)

/-- The named arguments that expressions stand for, behind others. -/
def namedMeanings (callee : Thing) (given : List (Thing × Thing)) :
    List (Option String × Expression) → Setup (List (Thing × Thing))
  | [] => return given
  | argument :: rest => do
    namedMeanings callee (← namedMeaning callee given argument) rest

def namedMeaning (callee : Thing) (given : List (Thing × Thing)) :
    Option String × Expression → Setup (List (Thing × Thing))
  | (name, e) => do Meaning.addNamed callee given name (← meaning e)

def comparisonMeaning (thing : Thing) : List (Relation × Expression) → Setup Thing
  | [] => return thing
  | compared :: rest => do
    let (holds, next) ← relationMeaning thing compared
    if holds && !rest.isEmpty then comparisonMeaning next rest
    else return .value (.bool holds)

def relationMeaning (thing : Thing) : Relation × Expression → Setup (Bool × Thing)
  | (relation, e) => do
    let next ← meaning e
    return (← ofMisuse (Meaning.holds relation thing next), next)

end

end Expression

end Rollout.Log
