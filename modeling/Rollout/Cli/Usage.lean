import Rollout.Cli.Command
import Rollout.Environment
import Rollout.Number.Numeral
import Rollout.Text.Wrap

/-!
What the program says of its use.

Its words are laid out for the width of the screen, as the environment gives it. The parts of a
command's form stand in one line where they fit. Help has a column for its topics, which is as wide
as they need, within bounds; a topic that is too wide for it has a line of its own.
-/

set_option autoImplicit false
set_option relaxedAutoImplicit false

namespace Rollout.Cli

def programName : String := "registry-sequencer"

def title : Option Verb → String
  | none => programName
  | some verb => s!"{programName} {verb.name}"

def usualColumns : Int := 80

def columns (environment : Environment) : Int :=
  match (environment.get? "COLUMNS").bind fun text => (Number.readWhole 10 text).toOption with
  | some n => if n ≤ 0 then usualColumns else n
  | none => usualColumns

def lineWidth (columns : Int) : Int := columns - 2

def blanks (column : Nat) : String := String.ofList (List.replicate column ' ')

def verbList : String := "\x7b" ++ ",".intercalate (Verb.all.map Verb.name) ++ "\x7d"

/-- What may stand behind the title in a command: the switches, and what stands beside them. -/
structure Form where
  switches : List String
  operands : List String

def form : Option Verb → Form
  | none => ⟨["[-h]"], [verbList, "..."]⟩
  | some .extract => ⟨["[-h]"], ["[file]"]⟩
  | some (.only .tests) => ⟨["[-h]", "--program-id", "PROGRAM_ID"], []⟩
  | some _ => ⟨["[-h]"], []⟩

/-- Fill lines with words, each as far as it goes; `used` is how much of the present line is taken,
and other lines start at an indentation. -/
def rows (width : Int) (indent used : Nat) (line : List String) : List String → List String
  | [] => if line.isEmpty then [] else [" ".intercalate line]
  | word :: rest =>
    if (used + word.length : Int) > width && !line.isEmpty then
      " ".intercalate line :: rows width indent (indent + word.length + 1) [word] rest
    else rows width indent (used + word.length + 1) (line ++ [word]) rest

def usageMark : String := "usage: "

/-- The lines of a form that does not fit into one. -/
def brokenUsage (width : Int) (name : String) (form : Form) : List String :=
  let lead := usageMark.length
  if 4 * (lead + name.length : Int) ≤ 3 * width then
    let indent := lead + name.length + 1
    let first := rows width indent lead [] (name :: form.switches)
    let others := first.drop 1 ++ rows width indent indent [] form.operands
    first.take 1 ++ others.map (blanks indent ++ ·)
  else
    let together := rows width lead lead [] (form.switches ++ form.operands)
    let lines :=
      if together.length > 1 then
        rows width lead lead [] form.switches ++ rows width lead lead [] form.operands
      else together
    name :: lines.map (blanks lead ++ ·)

def usage (width : Int) (place : Option Verb) : String :=
  let form := form place
  let whole := " ".intercalate (title place :: form.switches ++ form.operands)
  let fits : Bool := (usageMark.length + whole.length : Int) ≤ width
  usageMark ++
    (if fits then whole else "\n".intercalate (brokenUsage width (title place) form)) ++ "\n"

def Verb.summary : Verb → String
  | .run => "Run the full deploy-and-test sequence"
  | .stages => "List registered stages"
  | .plan => "Show the commands each step runs"
  | .extract => "Extract a program id from deploy output (file or stdin)"
  | .only step => s!"Run only the {step.name} step"

/-- A row of help: a topic at an indentation, and what is said about it. -/
structure HelpRow where
  indent : Nat
  topic : String
  text : String

def helpAbout : HelpRow := ⟨2, "-h, --help", "show this help message and exit"⟩

def operandRows : Option Verb → List HelpRow
  | none => ⟨2, verbList, ""⟩ :: Verb.all.map fun verb => ⟨4, verb.name, verb.summary⟩
  | some .extract => [⟨2, "file", "File holding the deploy output"⟩]
  | some _ => []

def switchRows : Option Verb → List HelpRow
  | some (.only .tests) =>
    [helpAbout, ⟨2, "--program-id PROGRAM_ID", "Rewards program id to forward to the tests."⟩]
  | _ => [helpAbout]

/-- The column in which the texts of rows start: as far right as the widest topic asks, within what
the width allows. -/
def textColumn (width : Int) (rows : List HelpRow) : Nat :=
  let widest := (rows.map fun row => row.topic.length).foldl max 0
  min (widest + 4) (min 24 (max (width - 20) 4)).toNat

def leastWidth : Int := 11

def HelpRow.shown (width : Int) (column : Nat) (row : HelpRow) : String :=
  let start := blanks row.indent ++ row.topic
  let lines := Text.wrap (max (width - column) leastWidth).toNat row.text
  let below := lines.map (blanks column ++ · ++ "\n")
  if start.length + 2 ≤ column then
    match lines with
    | [] => start ++ "\n"
    | line :: _ =>
      start ++ blanks (column - start.length) ++ line ++ "\n" ++ String.join (below.drop 1)
  else start ++ "\n" ++ String.join below

def description : String :=
  "Deploy the rewards and registry programs, then run the registry tests."

def helpPart (width : Int) (column : Nat) (heading : String) (rows : List HelpRow) :
    List String :=
  if rows.isEmpty then []
  else [heading ++ ":\n" ++ String.join (rows.map (HelpRow.shown width column))]

def help (width : Int) (place : Option Verb) : String :=
  let operands := operandRows place
  let switches := switchRows place
  let column := textColumn width (operands ++ switches)
  let told :=
    match place with
    | none => Text.wrap (max width leastWidth).toNat description
    | some _ => []
  "\n".intercalate ([usage width place] ++
    (if told.isEmpty then [] else ["\n".intercalate told ++ "\n"]) ++
    helpPart width column "positional arguments" operands ++
    helpPart width column "options" switches)

def complaint (width : Int) (place : Option Verb) (misuse : Misuse) : String :=
  usage width place ++ s!"{title place}: error: {misuse.message}\n"

end Rollout.Cli
