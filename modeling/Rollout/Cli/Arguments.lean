import Rollout.Text.Digit
import Rollout.Text.Quoted

/-!
Reading of arguments.

Words that start with a dash are switches. A long switch may be cut short where that leaves one
meaning, and its value may follow an equals sign; short switches may stand together behind one dash.
A lone dash, a negative number and a word with a blank are no switches, and no word behind two lone
dashes is one. A command takes all words behind it. What fits nowhere is left over. Two lone dashes
are never a value of their own: where they are given as one, no word is left.
-/

set_option autoImplicit false
set_option relaxedAutoImplicit false

namespace Rollout.Cli

/-- A switch. One that takes no value asks for help. -/
structure Switch where
  names : List String
  takesValue : Bool
  deriving DecidableEq, Repr

inductive Operand
  | nothing
  | word
  | command (name : String) (choices : List String)
  deriving DecidableEq, Repr

/-- What arguments may be. Every switch that takes a value has to be given. -/
structure Grammar where
  switches : List Switch
  operand : Operand
  deriving DecidableEq, Repr

inductive Misuse
  | ambiguous (given : String) (names : List String)
  | ignoredValue (switch : Switch) (value : String)
  | noValue (switch : Switch)
  | badChoice (operand given : String) (choices : List String)
  | missing (names : List String)
  | leftOver (words : List String)
  deriving DecidableEq, Repr

def Misuse.message : Misuse → String
  | .ambiguous given names => s!"ambiguous option: {given} could match " ++ ", ".intercalate names
  | .ignoredValue switch value =>
    "argument " ++ "/".intercalate switch.names ++ ": ignored explicit argument " ++
      Text.quoted value
  | .noValue switch => "argument " ++ "/".intercalate switch.names ++ ": expected one argument"
  | .badChoice operand given choices =>
    s!"argument {operand}: invalid choice: {Text.quoted given} (choose from " ++
      ", ".intercalate (choices.map Text.quoted) ++ ")"
  | .missing names => "the following arguments are required: " ++ ", ".intercalate names
  | .leftOver words => "unrecognized arguments: " ++ " ".intercalate words

/-- Why reading ends before its end. -/
inductive Stop
  | help
  | misuse (misuse : Misuse)
  deriving DecidableEq, Repr

inductive Word
  | plain (text : String)
  | dashes
  | unknown (text : String)
  | switch (text : String) (switch : Switch) (joined : Option String)
  deriving DecidableEq, Repr

def Word.text : Word → String
  | .plain text | .unknown text | .switch text _ _ => text
  | .dashes => "--"

def Word.isSwitch : Word → Bool
  | .unknown _ | .switch _ _ _ => true
  | .plain _ | .dashes => false

/-- Whether a text is a negative number: digits, or digits behind a point; one line feed may
follow. -/
def isNegativeNumber (cs : List Char) : Bool :=
  match cs with
  | '-' :: rest =>
    let rest := if rest.getLast? = some '\n' then rest.dropLast else rest
    let whole := rest.takeWhile Text.isDecimalDigit
    match rest.drop whole.length with
    | [] => !whole.isEmpty
    | '.' :: places => !places.isEmpty && places.all Text.isDecimalDigit
    | _ => false
  | _ => false

namespace Grammar

def named (grammar : Grammar) : List (String × Switch) :=
  grammar.switches.flatMap fun switch => switch.names.map fun name => (name, switch)

def find? (grammar : Grammar) (name : String) : Option Switch :=
  (grammar.named.find? (·.1 == name)).map (·.2)

/-- The parts of a text before and after its first equals sign, the second where there is one. -/
def splitValue (cs : List Char) : String × Option String :=
  let name := cs.takeWhile (· != '=')
  (String.ofList name,
    if name.length < cs.length then some (String.ofList (cs.drop (name.length + 1))) else none)

def matching (grammar : Grammar) (cs : List Char) : List (String × Switch × Option String) :=
  match cs with
  | '-' :: '-' :: _ =>
    let (start, joined) := splitValue cs
    (grammar.named.filter fun entry => start.toList.isPrefixOf entry.1.toList).map
      fun (name, switch) => (name, switch, joined)
  | '-' :: c :: rest =>
    grammar.named.filterMap fun (name, switch) =>
      if name.toList = ['-', c] then some (name, switch, some (String.ofList rest))
      else if cs.isPrefixOf name.toList then some (name, switch, none)
      else none
  | _ => []

/-- See a word that is not behind two lone dashes. -/
def see (grammar : Grammar) (text : String) : Except Stop Word :=
  let cs := text.toList
  if cs.head? != some '-' || text == "-" then .ok (.plain text)
  else match grammar.find? text with
    | some switch => .ok (.switch text switch none)
    | none =>
      let (start, joined) := splitValue cs
      match grammar.find? start with
      | some switch => .ok (.switch text switch joined)
      | none =>
        match grammar.matching cs with
        | [(_, switch, joined)] => .ok (.switch text switch joined)
        | [] =>
          if isNegativeNumber cs || cs.contains ' ' then .ok (.plain text) else .ok (.unknown text)
        | found => .error (.misuse (.ambiguous text (found.map (·.1))))

def seeAll (grammar : Grammar) : List String → Except Stop (List Word)
  | [] => .ok []
  | "--" :: rest => .ok (.dashes :: rest.map .plain)
  | text :: rest => do
    let word ← grammar.see text
    return word :: (← seeAll grammar rest)

end Grammar

/-- What was read: each switch that was given with its value, the words of the operand once it was
taken, and what is left over. -/
structure Parsed where
  given : List (Switch × Option String)
  operand : Option (List String)
  leftOver : List String
  deriving DecidableEq, Repr

namespace Parsed

def start : Parsed := ⟨[], none, []⟩

/-- The last value of the switches that take one, if a word is left of it. -/
def value (parsed : Parsed) : Option String := parsed.given.getLast?.bind (·.2)

def give (parsed : Parsed) (switch : Switch) (value : String) : Parsed :=
  let left := if value = "--" then none else some value
  { parsed with given := parsed.given ++ [(switch, left)] }

end Parsed

namespace Grammar

/-- Why reading ends at a short switch that asks for help, with the text joined to it: each
character of that has to be a short switch too. -/
def helpStop (grammar : Grammar) (switch : Switch) : List Char → Stop
  | [] => .misuse (.ignoredValue switch "")
  | c :: rest =>
    match grammar.find? (String.ofList ['-', c]) with
    | none => .misuse (.ignoredValue switch (String.ofList (c :: rest)))
    | some next => if next.takesValue || rest.isEmpty then .help else helpStop grammar next rest

/-- Why reading ends at a switch that takes no value, which stands as the given text. -/
def stopAt (grammar : Grammar) (text : String) (switch : Switch) : Option String → Stop
  | none => .help
  | some joined =>
    if text.toList.take 2 = ['-', '-'] then .misuse (.ignoredValue switch joined)
    else grammar.helpStop switch joined.toList

def operandLength (operand : Operand) (words : List Word) : Option Nat :=
  let front := if words.head? = some .dashes then 1 else 0
  match operand, words.drop front with
  | .nothing, _ => none
  | .word, .plain _ :: .dashes :: _ => some (front + 2)
  | .word, .plain _ :: _ => some (front + 1)
  | .word, _ => some front
  | .command _ _, .plain _ :: _ => some words.length
  | .command _ _, _ => none

def taken (operand : Operand) (texts : List String) : Except Stop (List String) :=
  match operand with
  | .command name choices =>
    let given := texts.headD ""
    if choices.contains given then .ok texts
    else .error (.misuse (.badChoice name given choices))
  | _ => .ok (texts.erase "--")

def takeOperand (grammar : Grammar) (parsed : Parsed) (words : List Word) :
    Except Stop (Parsed × List Word) :=
  match parsed.operand, operandLength grammar.operand words with
  | none, some n => do
    let texts ← taken grammar.operand ((words.take n).map Word.text)
    return ({ parsed with operand := some texts }, words.drop n)
  | _, _ => .ok (parsed, words)

/-- Read words. While a switch is ahead, the operand is taken in front of it if it stands there;
what else stands in front of it is left over. `room` bounds the steps. -/
def readWords (grammar : Grammar) (room : Nat) (parsed : Parsed) (words : List Word) :
    Except Stop Parsed :=
  match room with
  | 0 => .ok parsed
  | room + 1 =>
    if words.any Word.isSwitch then
      match words with
      | .unknown text :: rest =>
        readWords grammar room { parsed with leftOver := parsed.leftOver ++ [text] } rest
      | .switch text switch joined :: rest =>
        if switch.takesValue then
          match joined, rest with
          | some value, rest | none, .plain value :: rest =>
            readWords grammar room (parsed.give switch value) rest
          | none, _ => .error (.misuse (.noValue switch))
        else .error (grammar.stopAt text switch joined)
      | words => do
        let (parsed, rest) ← takeOperand grammar parsed words
        if rest.length < words.length then readWords grammar room parsed rest
        else
          let front := words.takeWhile (!·.isSwitch)
          readWords grammar room
            { parsed with leftOver := parsed.leftOver ++ front.map Word.text }
            (words.drop front.length)
    else do
      let (parsed, rest) ← takeOperand grammar parsed words
      return { parsed with leftOver := parsed.leftOver ++ rest.map Word.text }

def missing (grammar : Grammar) (parsed : Parsed) : List String :=
  ((grammar.switches.filter fun switch =>
    switch.takesValue && !parsed.given.any (·.1 == switch)).map fun switch =>
      "/".intercalate switch.names) ++
    match grammar.operand, parsed.operand with
    | .command name _, none => [name]
    | _, _ => []

def read (grammar : Grammar) (arguments : List String) : Except Stop Parsed := do
  let words ← grammar.seeAll arguments
  let parsed ← grammar.readWords (2 * words.length + 1) .start words
  match grammar.missing parsed with
  | [] => return parsed
  | names => throw (.misuse (.missing names))

end Grammar

end Rollout.Cli
