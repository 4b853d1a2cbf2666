import Rollout.Shell.Builtin.Basic
import Rollout.Shell.Field
import Rollout.Shell.Token

/-!
The commands of the shell that take input or arguments apart.
-/

set_option autoImplicit false
set_option relaxedAutoImplicit false

namespace Rollout.Shell.Builtin

open Machine (Job Process Channel Child Halt)

/-- A line without its escapes; escaped characters are shielded. -/
def unescaped : List Char → Field
  | '\\' :: c :: rest => (c, true) :: unescaped rest
  | '\\' :: [] => []
  | c :: rest => (c, false) :: unescaped rest
  | [] => []

def separates (separators : List Char) (cell : Char × Bool) : Bool :=
  !cell.2 && separators.contains cell.1

def trimEnd (separators : List Char) (line : Field) : Field :=
  (line.reverse.dropWhile fun cell => !cell.2 && Cell.isGap separators cell.1).reverse

/-- Give the parts of a line to names; the last one gets the rest. -/
def distribute (separators : List Char) : List String → Field → List (String × String)
  | [], _ => []
  | [name], line =>
    let kept := trimEnd separators line
    let alone := (kept.filter (separates separators)).length = 1 &&
      (kept.getLast?.map (separates separators)).getD false
    [(name, Field.text (if alone then kept.dropLast else kept))]
  | name :: names, line =>
    let first := line.takeWhile fun cell => !separates separators cell
    let rest := line.drop first.length
    let gap (cell : Char × Bool) : Bool := !cell.2 && Cell.isGap separators cell.1
    let blanks := rest.takeWhile gap
    let rest := rest.drop blanks.length
    let rest :=
      match rest with
      | cell :: more => if separates separators cell then more.dropWhile gap else rest
      | [] => rest
    (name, Field.text first) :: distribute separators names rest

def readContinued (raw : Bool) : Nat → Job (List Char × Bool)
  | 0 => return ([], false)
  | room + 1 => do
    let (bytes, complete) ← Job.readLine 0
    let line := Text.Utf8.decodeLossy bytes
    let slashes := (line.reverse.takeWhile (· == '\\')).length
    if !raw && complete && slashes % 2 = 1 then
      let (more, complete) ← readContinued raw room
      return (line.dropLast ++ more, complete)
    else return (line, complete)

def read (words : List String) : Job Nat := do
  let raw := words.head? = some "-r"
  let names := if raw then words.drop 1 else words
  if names.isEmpty then warn "read: arg count" 2
  else
    let process ← Job.process
    let separators := ((process.value? "IFS").getD " \t\n").toList
    let (line, complete) ← readContinued raw 1000
    let cells : Field := if raw then line.map (·, false) else unescaped line
    let cells := cells.dropWhile fun cell => !cell.2 && Cell.isGap separators cell.1
    for name in names do
      if !isName name.toList then raise s!"read: {name}: bad variable name"
    for (name, value) in distribute separators names cells do
      assign (some "read") name value
    return if complete then 0 else 1

/-- What `getopts` has found: the letter, its value, how many words are read and, of the last one,
how many characters. -/
structure Option' where
  letter : Char
  value : Option String
  words : Nat
  offset : Nat
  complaint : Option String

def nextLetter (arguments : List String) (read offset : Nat) :
    Option (Char × List Char × Nat × Nat) × Nat :=
  let here := ((arguments[read - 1]?).getD "").toList.drop offset
  match if offset = 0 || read = 0 then [] else here with
  | c :: rest => (some (c, rest, read, offset + 1), read)
  | [] =>
    match (arguments[read]?).map String.toList with
    | some ['-', '-'] => (none, read + 1)
    | some ('-' :: c :: rest) => (some (c, rest, read + 1, 2), read + 1)
    | _ => (none, read)

def nextOption (letters : List Char) (arguments : List String) (read offset : Nat) :
    Option Option' × Nat :=
  let silent := letters.head? = some ':'
  match nextLetter arguments read offset with
  | (none, read) => (none, read)
  | (some (c, rest, read, offset), _) =>
    let left := if rest.isEmpty then 0 else offset
    let shown := String.singleton c
    let found (option : Option') : Option Option' × Nat := (some option, option.words)
    match (letters.dropWhile (· != c)).drop 1, c != ':' && letters.contains c with
    | _, false =>
      if silent then found ⟨'?', some shown, read, left, none⟩
      else found ⟨'?', none, read, left, some s!"Illegal option -{shown}"⟩
    | ':' :: _, true =>
      match rest, arguments[read]? with
      | [], none =>
        if silent then found ⟨':', some shown, read, 0, none⟩
        else found ⟨'?', none, read, 0, some s!"No arg for -{shown} option"⟩
      | [], some value => found ⟨c, some value, read + 1, 0, none⟩
      | rest, _ => found ⟨c, some (String.ofList rest), read, 0, none⟩
    | _, true => found ⟨c, some "", read, left, none⟩

def getopts (words : List String) : Job Nat := do
  match words with
  | letters :: name :: rest =>
    let process ← Job.process
    let arguments := if rest.isEmpty then process.arguments else rest
    let read := (((process.value? "OPTIND").getD "1").toNat?.getD 1) - 1
    let (found, read) := nextOption letters.toList arguments read process.offset
    assign none "OPTIND" (toString (read + 1))
    match found with
    | none =>
      Job.alter ({ · with offset := 0 })
      assign none name "?"
      return 1
    | some found =>
      Job.alter ({ · with offset := found.offset })
      found.complaint.forM Job.complain
      match found.value with
      | some value => assign none "OPTARG" value
      | none =>
        Job.alter fun process =>
          { process with store := process.store.filter (·.1 != "OPTARG") }
      assign none name (String.singleton found.letter)
      return 0
  | _ => warn "getopts: Usage: getopts optstring var [arg...]" 2

end Rollout.Shell.Builtin
