import Rollout.Plan
import Rollout.Value.Writing

/-!
Plans from the values of plan files.

A plan file overrides the usual plan field by field. A field that is not given keeps its usual
value; checks go from the whole to the parts, steps in the order of the file, the timeout last.
-/

set_option autoImplicit false
set_option relaxedAutoImplicit false

namespace Rollout

open Number (Binary64)

namespace Value

/-- The number that a value stands for: none where the value does not stand for one. -/
def number? : Value → Except Fault (Option Binary64)
  | .bool b => .ok (Binary64.ofInt? (if b then 1 else 0))
  | .int i =>
    match Binary64.ofInt? i with
    | some x => .ok (some x)
    | none => .error .overflow
  | .float x => .ok (some x)
  | .text s => .ok (Number.decimal? s)
  | .bytes bs =>
    .ok (if bs.all (· < 128) then
      Number.decimal? (String.ofList (bs.map fun b => Char.ofNat b.toNat)) else none)
  | _ => .ok none

end Value

namespace Plan

/-- Read a timeout: a number greater than zero. The label says whose timeout it is. -/
def timeout? (raw : Value) (label : String) : Except Rollout.Fault Binary64 := do
  match ← raw.number?.mapError .value with
  | none => throw (.plan (.unreadableTimeout label (← raw.quote?.mapError .value)))
  | some seconds =>
    if seconds.isPositive then return seconds
    throw (.plan (.timeoutNotPositive label (← raw.quote?.mapError .value)))

/-- Read the words of a command: a text that is split, or a list whose members are words. -/
def argv? (step : String) (raw : Value) : Except Rollout.Fault (List String) := do
  let words ←
    match raw.opened with
    | .text s => (Text.Words.split s).mapError .words
    | .codes ns => (Text.Words.split ns.text).mapError .words
    | .list items => items.mapM fun item => item.show?.mapError .value
    | .pair first second => [first, second].mapM fun item => item.show?.mapError .value
    | _ => throw (.plan (.commandShape step))
  if words.isEmpty then throw (.plan (.commandEmpty step))
  return words

def entries? (v : Value) : Option (List (Value × Value)) :=
  match v.opened with
  | .map entries => some entries
  | _ => none

def orEmpty (v : Value) : Value := if v.isGiven then v else .map []

def given? (entries : List (Value × Value)) (name : String) : Option Value :=
  (Value.get? entries name).filter (·.isGiven)

def override (command : StepCommand) (settings : Value) : Except Rollout.Fault StepCommand := do
  let some entries := entries? settings | throw (.plan (.stepNotMapping command.name))
  let argv ←
    match Value.get? entries "command" with
    | some raw => argv? command.name raw
    | none => pure command.argv
  let cwd ←
    match given? entries "cwd" with
    | some raw => (raw.show?.mapError .value).map fun text => some (Path.ofString text)
    | none => pure command.cwd
  let description ←
    match given? entries "description" with
    | some raw => raw.show?.mapError .value
    | none => pure command.description
  return { command with argv := argv, cwd := cwd, description := description }

def stepOf? : Value → Option Step
  | .text name => Step.ofName? name
  | _ => none

def textLe (s t : String) : Bool := !(t < s)

def overrideAll (plan : Plan) : List (Value × Value) → Except Rollout.Fault Plan
  | [] => .ok plan
  | (key, settings) :: rest =>
    match stepOf? key with
    | none => overrideAll plan rest
    | some step => do
      let command ← override (plan.command step) (orEmpty settings)
      overrideAll (plan.withCommand step command) rest

def ofPayload (make : String) (payload : Value) : Except Rollout.Fault Plan := do
  let some entries := entries? (orEmpty payload) | throw (.plan .notMapping)
  let some steps := entries? (orEmpty ((Value.get? entries "steps").getD .null))
    | throw (.plan .stepsNotMapping)
  let unknown ← (steps.filter fun entry => (stepOf? entry.1).isNone).mapM fun entry =>
    entry.1.show?.mapError .value
  if !unknown.isEmpty then
    throw (.plan (.unknownSteps (unknown.mergeSort textLe)))
  let plan ← overrideAll (usual make) steps
  let parameter ←
    match given? entries "parameter" with
    | some raw => raw.show?.mapError .value
    | none => pure plan.parameter
  let timeout ←
    match (Value.get? entries "timeout").getD .null with
    | .null => pure plan.timeout
    | raw => (timeout? raw "timeout").map some
  return { plan with parameter := parameter, timeout := timeout }

end Plan

end Rollout
