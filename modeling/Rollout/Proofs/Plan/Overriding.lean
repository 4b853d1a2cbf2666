import Rollout.Plan.File

/-!
Plans from values, field by field.

A plan file is read in parts: each field of a step, the parameter and the timeout has a reading of
its own, which is the value that the file gives or the usual one. No part changes the name of a
step, so every plan that can be loaded calls its steps by their own names.
-/

set_option autoImplicit false
set_option relaxedAutoImplicit false

namespace Rollout

theorem exists_ok_of_bind {α β : Type} {answer : Except Fault α} {next : α → Except Fault β} {b : β}
    (done : (answer >>= next) = .ok b) : ∃ a, answer = .ok a ∧ next a = .ok b := by
  cases answer with
  | error fault => cases done
  | ok a => exact ⟨a, rfl, done⟩

theorem error_of_bind {α β : Type} {answer : Except Fault α} {next : α → Except Fault β}
    {fault : Fault} (failed : (answer >>= next) = .error fault) :
    answer = .error fault ∨ ∃ a, answer = .ok a ∧ next a = .error fault := by
  cases answer with
  | error raised =>
    cases failed
    exact .inl rfl
  | ok a => exact .inr ⟨a, rfl, failed⟩

section Told

variable {ε ε' α : Type} {answer : Except ε α} {tells : ε → ε'}

theorem ok_of_mapError {a : α} (done : answer.mapError tells = .ok a) : answer = .ok a := by
  cases answer with
  | error fault => cases done
  | ok b =>
    cases done
    rfl

theorem error_of_mapError {told : ε'} (failed : answer.mapError tells = .error told) :
    ∃ fault, told = tells fault := by
  cases answer with
  | error fault =>
    cases failed
    exact ⟨fault, rfl⟩
  | ok a => cases failed

end Told

namespace Plan

/-- The words that the settings of a step give its command, or its own. -/
def argvIn (command : StepCommand) (entries : List (Value × Value)) :
    Except Rollout.Fault (List String) :=
  match Value.get? entries "command" with
  | some raw => argv? command.name raw
  | none => .ok command.argv

/-- The directory that the settings of a step give its command, or its own. -/
def cwdIn (command : StepCommand) (entries : List (Value × Value)) :
    Except Rollout.Fault (Option Path) :=
  match given? entries "cwd" with
  | some raw => (raw.show?.mapError .value).map fun text => some (Path.ofString text)
  | none => .ok command.cwd

/-- The description that the settings of a step give its command, or its own. -/
def descriptionIn (command : StepCommand) (entries : List (Value × Value)) :
    Except Rollout.Fault String :=
  match given? entries "description" with
  | some raw => raw.show?.mapError .value
  | none => .ok command.description

theorem override_eq (command : StepCommand) (settings : Value) :
    override command settings =
      match entries? settings with
      | none => .error (.plan (.stepNotMapping command.name))
      | some entries => do
        let argv ← argvIn command entries
        let cwd ← cwdIn command entries
        let description ← descriptionIn command entries
        return { command with argv := argv, cwd := cwd, description := description } := by
  unfold override
  cases entries? settings with
  | none => rfl
  | some entries =>
    simp only [argvIn, cwdIn, descriptionIn]
    cases Value.get? entries "command" <;> cases given? entries "cwd" <;>
      cases given? entries "description" <;> rfl

theorem name_of_override {command after : StepCommand} {settings : Value}
    (done : override command settings = .ok after) : after.name = command.name := by
  rw [override_eq] at done
  split at done
  · cases done
  · obtain ⟨argv, -, done⟩ := exists_ok_of_bind done
    obtain ⟨cwd, -, done⟩ := exists_ok_of_bind done
    obtain ⟨description, -, done⟩ := exists_ok_of_bind done
    cases done
    rfl

/-- The parameter that a plan file gives, or that of the plan. -/
def parameterIn (plan : Plan) (entries : List (Value × Value)) : Except Rollout.Fault String :=
  match given? entries "parameter" with
  | some raw => raw.show?.mapError .value
  | none => .ok plan.parameter

def timeoutIn (plan : Plan) (entries : List (Value × Value)) :
    Except Rollout.Fault (Option Number.Binary64) :=
  match (Value.get? entries "timeout").getD .null with
  | .null => .ok plan.timeout
  | raw => (timeout? raw "timeout").map some

/-- Refuse the steps of a plan file whose names are not known, all of them together. -/
def refuseUnknown (steps : List (Value × Value)) : Except Rollout.Fault Unit := do
  let unknown ← (steps.filter fun entry => (stepOf? entry.1).isNone).mapM fun entry =>
    entry.1.show?.mapError .value
  if !unknown.isEmpty then throw (.plan (.unknownSteps (unknown.mergeSort textLe)))

theorem ofPayload_eq (make : String) (payload : Value) :
    ofPayload make payload =
      match entries? (orEmpty payload) with
      | none => .error (.plan .notMapping)
      | some entries =>
        match entries? (orEmpty ((Value.get? entries "steps").getD .null)) with
        | none => .error (.plan .stepsNotMapping)
        | some steps => do
          refuseUnknown steps
          let plan ← overrideAll (usual make) steps
          let parameter ← parameterIn plan entries
          let timeout ← timeoutIn plan entries
          return { plan with parameter := parameter, timeout := timeout } := by
  unfold ofPayload
  cases entries? (orEmpty payload) with
  | none => rfl
  | some entries =>
    dsimp only
    cases entries? (orEmpty ((Value.get? entries "steps").getD .null)) with
    | none => rfl
    | some steps =>
      dsimp only [refuseUnknown]
      cases (steps.filter fun entry => (stepOf? entry.1).isNone).mapM fun entry =>
          entry.1.show?.mapError Fault.value with
      | error fault => rfl
      | ok unknown =>
        cases unknown with
        | cons name names => rfl
        | nil =>
          simp only [parameterIn, timeoutIn]
          cases given? entries "parameter" <;>
            cases (Value.get? entries "timeout").getD .null <;> rfl

theorem ofPayload_eq_ok_iff {make : String} {payload : Value} {plan : Plan} :
    ofPayload make payload = .ok plan ↔
      ∃ entries steps base parameter timeout, entries? (orEmpty payload) = some entries ∧
        entries? (orEmpty ((Value.get? entries "steps").getD .null)) = some steps ∧
        refuseUnknown steps = .ok () ∧ overrideAll (usual make) steps = .ok base ∧
        parameterIn base entries = .ok parameter ∧ timeoutIn base entries = .ok timeout ∧
        plan = { base with parameter := parameter, timeout := timeout } := by
  rw [ofPayload_eq]
  constructor
  · intro read
    split at read
    · cases read
    · rename_i entries whole
      split at read
      · cases read
      · rename_i steps listed
        obtain ⟨accepted, known, read⟩ := exists_ok_of_bind read
        obtain ⟨base, overridden, read⟩ := exists_ok_of_bind read
        obtain ⟨parameter, named, read⟩ := exists_ok_of_bind read
        obtain ⟨timeout, timed, read⟩ := exists_ok_of_bind read
        cases read
        exact ⟨entries, steps, base, parameter, timeout, whole, listed, known, overridden, named,
          timed, rfl⟩
  · rintro ⟨entries, steps, base, parameter, timeout, whole, listed, known, overridden, named, timed,
      rfl⟩
    simp only [whole, listed, known, overridden, bind, Except.bind, named, timed]
    rfl

def IsNamed (plan : Plan) : Prop := ∀ step, (plan.command step).name = step.name

theorem isNamed_usual (make : String) : IsNamed (usual make) := by
  intro step
  cases step <;> rfl

theorem command_withCommand (plan : Plan) (step other : Step) (command : StepCommand) :
    (plan.withCommand step command).command other =
      if other = step then command else plan.command other := by
  cases step <;> cases other <;> rfl

theorem parameter_withCommand (plan : Plan) (step : Step) (command : StepCommand) :
    (plan.withCommand step command).parameter = plan.parameter := by
  cases step <;> rfl

theorem timeout_withCommand (plan : Plan) (step : Step) (command : StepCommand) :
    (plan.withCommand step command).timeout = plan.timeout := by
  cases step <;> rfl

theorem kept_of_overrideAll {α : Type} {field : Plan → α}
    (kept : ∀ plan step command, field (plan.withCommand step command) = field plan)
    {plan after : Plan} {steps : List (Value × Value)} (done : plan.overrideAll steps = .ok after) :
    field after = field plan := by
  induction steps generalizing plan with
  | nil =>
    cases done
    rfl
  | cons entry rest ih =>
    obtain ⟨key, settings⟩ := entry
    rw [Plan.overrideAll] at done
    split at done
    · exact ih done
    · obtain ⟨command, -, done⟩ := exists_ok_of_bind done
      exact (ih done).trans (kept ..)

theorem parameter_of_overrideAll {plan after : Plan} {steps : List (Value × Value)}
    (done : plan.overrideAll steps = .ok after) : after.parameter = plan.parameter :=
  kept_of_overrideAll parameter_withCommand done

theorem timeout_of_overrideAll {plan after : Plan} {steps : List (Value × Value)}
    (done : plan.overrideAll steps = .ok after) : after.timeout = plan.timeout :=
  kept_of_overrideAll timeout_withCommand done

theorem IsNamed.withCommand {plan : Plan} (named : plan.IsNamed) {step : Step}
    {command : StepCommand} (same : command.name = step.name) :
    (plan.withCommand step command).IsNamed := by
  intro other
  rw [command_withCommand]
  split
  · rename_i here
    rw [here, same]
  · exact named other

theorem IsNamed.overrideAll {plan after : Plan} {steps : List (Value × Value)}
    (named : plan.IsNamed) (done : plan.overrideAll steps = .ok after) : after.IsNamed := by
  induction steps generalizing plan with
  | nil =>
    cases done
    exact named
  | cons entry rest ih =>
    obtain ⟨key, settings⟩ := entry
    rw [Plan.overrideAll] at done
    split at done
    · exact ih named done
    · rename_i step found
      obtain ⟨command, overridden, done⟩ := exists_ok_of_bind done
      exact ih (named.withCommand ((name_of_override overridden).trans (named step))) done

theorem isNamed_of_payload {make : String} {payload : Value} {plan : Plan}
    (read : ofPayload make payload = .ok plan) : plan.IsNamed := by
  obtain ⟨_, _, base, _, _, -, -, -, overridden, -, -, rfl⟩ := ofPayload_eq_ok_iff.mp read
  have named := (isNamed_usual make).overrideAll overridden
  intro step
  cases step with
  | rewards => exact named .rewards
  | registry => exact named .registry
  | tests => exact named .tests

theorem isNamed_of_load {disk : Disk} {make : String} {path? : Option Path} {plan : Plan}
    (loaded : load disk make path? = .ok plan) : plan.IsNamed := by
  cases path? with
  | none =>
    cases loaded
    exact isNamed_usual make
  | some path =>
    rw [load] at loaded
    obtain ⟨present, -, loaded⟩ := exists_ok_of_bind loaded
    cases present with
    | false => cases loaded
    | true =>
      obtain ⟨bytes, -, loaded⟩ := exists_ok_of_bind loaded
      obtain ⟨value, -, loaded⟩ := exists_ok_of_bind loaded
      exact isNamed_of_payload loaded

end Plan

end Rollout
