import Rollout.Entries
import Rollout.Ini.Fault
import Rollout.Text.Blank
import Rollout.Text.Lower
import Rollout.Text.Newline

/-!
INI documents: sections of options.

An option's value goes on in the lines below it that stand further to the right. Lines that start
with a number sign or a semicolon are comments. No section and no option of a section may come
twice, and the options of the section `DEFAULT` hold in every section.

A value may refer to another option of its section by a percent sign and the name between
parentheses, with the letter `s` behind them; two percent signs stand for one.
-/

set_option autoImplicit false
set_option relaxedAutoImplicit false

namespace Rollout

/-- An INI document: the options of each section, in order. -/
abbrev Ini := Entries (Entries String)

namespace Ini

def everywhere : String := "DEFAULT"

structure Reading where
  sections : Entries (Entries (List String))
  current : Option String
  option : Option String
  indent : Nat
  unreadable : List (Nat × String)

def Reading.start : Reading := ⟨[], none, none, 0, []⟩

namespace Reading

def setLines (reading : Reading) (name option : String) (lines : List String) : Reading :=
  let options := (reading.sections.get? name).getD []
  { reading with
    sections := reading.sections.put name (options.put option lines)
    option := if option.isEmpty then none else some option }

/-- Add a line to the value that is being read, if there is one. -/
def addLine (reading : Reading) (line : String) : Reading :=
  match reading.current, reading.option with
  | some name, some option =>
    let lines := ((reading.sections.get? name).bind (·.get? option)).getD []
    reading.setLines name option (lines ++ [line])
  | _, _ => reading

end Reading

/-- The name that a line gives as a header: all between its first bracket and its last. -/
def header? (line : List Char) : Option String :=
  match line with
  | '[' :: rest =>
    let name := ((rest.reverse.dropWhile (· != ']')).drop 1).reverse
    if name.isEmpty then none else some (String.ofList name)
  | _ => none

/-- The option and the value of a line: the parts before and after the first equals sign or
colon. -/
def option? (line : List Char) : Option (String × String) :=
  let isMark (c : Char) : Bool := c == '=' || c == ':'
  match line.dropWhile (!isMark ·) with
  | [] => none
  | _ :: value =>
    let name := Text.trimEnd (line.takeWhile (!isMark ·))
    some (Text.lower (String.ofList name), String.ofList (Text.trim value))

def step (source : String) (reading : Reading) (number : Nat) (line ended : List Char) :
    Except Fault Reading :=
  let value := Text.trim line
  match value.head? with
  | none => .ok (reading.addLine "")
  | some first =>
    if first == '#' || first == ';' then .ok reading
    else
      let indent := (line.takeWhile Text.isBlank).length
      if reading.current.isSome && reading.option.isSome && indent > reading.indent then
        .ok (reading.addLine (String.ofList value))
      else
        let reading := { reading with indent := indent }
        match header? value, reading.current with
        | some name, _ =>
          if name != everywhere && reading.sections.has name then
            .error (.sectionTwice source number name)
          else
            .ok { reading with
              sections := reading.sections.put name ((reading.sections.get? name).getD [])
              current := some name
              option := none }
        | none, none => .error (.noHeader source number (String.ofList ended))
        | none, some name =>
          let bad := { reading with
            unreadable := reading.unreadable ++ [(number, String.ofList ended)] }
          match option? value with
          | none => .ok bad
          | some (option, value) =>
            let taken := ((reading.sections.get? name).getD []).has option
            if taken then .error (.optionTwice source number name option)
            else .ok ((if option.isEmpty then bad else reading).setLines name option [value])

def steps (source : String) (reading : Reading) : Nat → List (List Char × List Char) →
    Except Fault Reading
  | _, [] => .ok reading
  | number, (line, ended) :: rest => do
    steps source (← step source reading number line ended) (number + 1) rest

def numbered (text : List Char) : List (List Char × List Char) :=
  let lines := Text.lines text
  let complete := if text.getLast? = some '\n' then lines.length else lines.length - 1
  (lines.take complete).map (fun line => (line, line ++ ['\n'])) ++
    (lines.drop complete).map fun line => (line, line)

/-- The value of lines: they are joined, and blanks at the end do not count. -/
def joined (lines : List String) : String :=
  String.ofList (Text.trimEnd ("\n".intercalate lines).toList)

def read (source : String) (text : List Char) : Except Fault Ini := do
  let reading ← steps source .start 1 (numbered text)
  if reading.unreadable.isEmpty then
    return reading.sections.map fun (name, options) =>
      (name, options.map fun (option, lines) => (option, joined lines))
  else throw (.unreadable source reading.unreadable)

def hasSection (ini : Ini) (name : String) : Bool := name != everywhere && ini.has name

def optionsOf (ini : Ini) (name : String) : Entries String :=
  Entries.overlay ((ini.get? everywhere).getD []) ((ini.get? name).getD [])

def raw? (ini : Ini) (name option : String) : Option String :=
  if ini.hasSection name then (ini.optionsOf name).get? option else none

/-- The name that a value refers to behind a percent sign and a parenthesis, and the rest. -/
def reference? (cs : List Char) : Option (String × List Char) :=
  let name := cs.takeWhile (· != ')')
  match cs.dropWhile (· != ')') with
  | ')' :: 's' :: rest => if name.isEmpty then none else some (String.ofList name, rest)
  | _ => none

/-- Put options where a value refers to them. `left` bounds how often they may refer to others, and
`fuel` need not be more than the number of characters. -/
def fill (options : Entries String) (name option raw : String) (left fuel : Nat)
    (cs : List Char) : Except Fault (List Char) :=
  match fuel, cs with
  | 0, _ | _, [] => .ok []
  | fuel + 1, '%' :: '%' :: rest => do
    return '%' :: (← fill options name option raw left fuel rest)
  | fuel + 1, '%' :: '(' :: rest =>
    match reference? rest with
    | none => .error (.badReference (String.ofList cs))
    | some (reference, rest) => do
      let reference := Text.lower reference
      let some value := options.get? reference
        | throw (.unknownReference name option reference raw)
      let inner ←
        if !value.toList.contains '%' then pure value.toList
        else match left with
          | 0 => throw (.endlessReference name option raw)
          | left + 1 => fill options name option raw left value.length value.toList
      return inner ++ (← fill options name option raw left fuel rest)
  | fuel + 1, c :: rest =>
    if c == '%' then .error (.lonePercent (String.ofList cs))
    else do return c :: (← fill options name option raw left fuel rest)
  termination_by (left, fuel)

def value? (ini : Ini) (name option : String) : Except Fault (Option String) :=
  match ini.raw? name option with
  | none => .ok none
  | some raw => do
    let cs ← fill (ini.optionsOf name) name option raw (referenceLimit - 1) raw.length raw.toList
    return some (String.ofList cs)

example : (read "e.ini" "[a]\nX = 1\n  2\n# c\ny:3\n".toList).toOption =
    some [("a", [("x", "1\n2"), ("y", "3")])] := by decide +kernel

example : (value? [("a", [("x", "%(y)s%%"), ("y", "1")])] "a" "x").toOption =
    some (some "1%") := by cbv

end Ini

end Rollout
