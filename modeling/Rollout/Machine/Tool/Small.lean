import Rollout.Machine.Condition
import Rollout.Machine.Tool.Switches

/-!
Small programs: those that answer, print a few words, or wait.
-/

set_option autoImplicit false
set_option relaxedAutoImplicit false

namespace Rollout.Machine.Tool

def true' : Tool := fun _ _ => return 0

def false' : Tool := fun _ _ => return 1

def echo : Tool := fun name arguments => print name (Shell.Format.echo .program arguments)

def printf : Tool := fun name arguments =>
  match if arguments.head? = some "--" then arguments.drop 1 else arguments with
  | [] => misuse name "missing operand" 1
  | form :: rest => do
    let printed := Shell.Format.printf .program form rest
    let status ← print name printed.bytes
    printed.complaints.forM fun text => Job.complain s!"{name}: {text}"
    let failed := printed.complaints.any fun text => !text.startsWith "warning"
    return max status (if failed then 1 else 0)

/-- How many billionths of a second a letter stands for. -/
def second? (letters : String) : Option Nat :=
  match letters with
  | "" | "s" => some (Nat.pow 10 9)
  | "m" => some (60 * Nat.pow 10 9)
  | "h" => some (3600 * Nat.pow 10 9)
  | "d" => some (86400 * Nat.pow 10 9)
  | _ => none

/-- The duration that a text spells, in billionths of a second. -/
def duration? (text : String) : Option Nat :=
  let cs := text.toList
  if ["inf", "infinity"].contains text.toLower then some forever
  else
    let whole := cs.takeWhile Char.isDigit
    let rest := cs.drop whole.length
    let (part, rest) :=
      match rest with
      | '.' :: rest =>
        let part := rest.takeWhile Char.isDigit
        (part, rest.drop part.length)
      | _ => ([], rest)
    let n := (whole ++ part).foldl (fun n c => n * 10 + (c.toNat - '0'.toNat)) 0
    if whole.isEmpty && part.isEmpty then none
    else (second? (String.ofList rest)).map fun factor => n * factor / Nat.pow 10 part.length

def sleep : Tool := withSwitches "" "" fun name switches => do
  if switches.operands.isEmpty then misuse name "missing operand" 1
  else
    let wrong := switches.operands.filter fun text => (duration? text).isNone
    if wrong.isEmpty then
      Job.pass ((switches.operands.filterMap duration?).foldl (· + ·) 0)
      return 0
    else
      for text in wrong do
        Job.complain s!"{name}: invalid time interval {curly text}"
      Job.complain s!"Try '{name} --help' for more information."
      return 1

def pwd : Tool := withSwitches "LP" "" fun name _ => do
  printText name ((← Job.process).directory ++ "\n")

def printenv : Tool := withSwitches "0" "" fun name switches => do
  let environment := (← Job.process).environment
  if switches.operands.isEmpty then
    printText name ("".intercalate (environment.map fun (key, value) => s!"{key}={value}\n"))
  else
    let values := switches.operands.filterMap environment.get?
    let _ ← printText name ("".intercalate (values.map (· ++ "\n")))
    return if values.length = switches.operands.length then 0 else 1

def test : Tool := fun name arguments => do
  let state ← get
  let closes := name.endsWith "["
  let words := if closes then arguments.dropLast else arguments
  if closes && arguments.getLast? != some "]" then fail name ("missing " ++ curly "]") 2
  else
    match Condition.holds true state.commons.disk state.process.here words with
    | .ok true => return 0
    | .ok false => return 1
    | .error (.badNumber text) => fail name s!"invalid integer {curly text}" 2
    | .error (.badOperator text) =>
      match words with
      | [first, second] =>
        if first.startsWith "-" then fail name s!"{curly first}: unary operator expected" 2
        else fail name s!"missing argument after {curly second}" 2
      | [_, second, _] => fail name s!"{curly second}: binary operator expected" 2
      | _ => fail name s!"extra argument {curly text}" 2
    | .error fault => fail name fault.message 2

def whoami : Tool := fun name _ => printText name "root\n"

def id' : Tool := withSwitches "ugnrG" "" fun name switches =>
  if switches.has 'u' || switches.has 'g' || switches.has 'G' then
    printText name (if switches.has 'n' then "root\n" else "0\n")
  else printText name "uid=0(root) gid=0(root) groups=0(root)\n"

example : duration? "0.25s" = some 250000000 ∧ duration? "1x" = none := by decide +kernel

end Rollout.Machine.Tool
