import Rollout.Cli.Arguments
import Rollout.Plan

/-!
The commands of the program, and their arguments.
-/

set_option autoImplicit false
set_option relaxedAutoImplicit false

namespace Rollout.Cli

inductive Verb
  | run
  | stages
  | plan
  | extract
  | only (step : Step)
  deriving DecidableEq, Repr

namespace Verb

def all : List Verb :=
  [.run, .stages, .plan, .extract, .only .rewards, .only .registry, .only .tests]

def name : Verb → String
  | .run => "run"
  | .stages => "stages"
  | .plan => "plan"
  | .extract => "extract"
  | .only step => step.name

def ofName? (name : String) : Option Verb := all.find? (·.name == name)

end Verb

def helpSwitch : Switch := ⟨["-h", "--help"], false⟩

def programSwitch : Switch := ⟨["--program-id"], true⟩

def grammar : Grammar := ⟨[helpSwitch], .command "command" (Verb.all.map Verb.name)⟩

def Verb.grammar : Verb → Grammar
  | .extract => ⟨[helpSwitch], .word⟩
  | .only .tests => ⟨[helpSwitch, programSwitch], .nothing⟩
  | _ => ⟨[helpSwitch], .nothing⟩

inductive Command
  | run
  | stages
  | plan
  | extract (file : Option String)
  | deployRewards
  | deployRegistry
  | runTests (programId : Option String)
  deriving DecidableEq, Repr

/-- The command of a verb with what was read behind it. -/
def Verb.command (parsed : Parsed) : Verb → Command
  | .run => .run
  | .stages => .stages
  | .plan => .plan
  | .extract => .extract ((parsed.operand.bind List.head?).filter (!·.isEmpty))
  | .only .rewards => .deployRewards
  | .only .registry => .deployRegistry
  | .only .tests => .runTests parsed.value

/-- Why there is no command: where reading ended, at the program or at a verb, and why. -/
structure Refusal where
  place : Option Verb
  stop : Stop
  deriving DecidableEq, Repr

def read (arguments : List String) : Except Refusal Command := do
  let parsed ← (grammar.read arguments).mapError (⟨none, ·⟩)
  let words := parsed.operand.getD []
  match words.head?.bind Verb.ofName? with
  | none => throw ⟨none, .misuse (.missing ["command"])⟩
  | some verb =>
    let inner ← (verb.grammar.read words.tail).mapError (⟨some verb, ·⟩)
    match parsed.leftOver ++ inner.leftOver with
    | [] => return verb.command inner
    | words => throw ⟨none, .misuse (.leftOver words)⟩

example : (read ["test-program", "--p=x"]).toOption = some (.runTests (some "x")) := by
  decide +kernel

example : (read ["test-program", "--program-id=--"]).toOption = some (.runTests none) := by
  decide +kernel

example : (read ["-hh"]).toOption = none := by decide +kernel

example : (read ["extract", "--", "-x"]).toOption = some (.extract (some "-x")) := by decide +kernel

end Rollout.Cli
