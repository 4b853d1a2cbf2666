import Rollout.Proofs.Plan.Acceptance
import Rollout.Proofs.Value.Shown

/-!
Plans field by field.

Each field of a plan has one place in a plan file. It is read from that place alone: a value that is
given there decides the field, and otherwise it is the usual one. The steps, their names and what
must not be empty are the same in every plan.
-/

set_option autoImplicit false
set_option relaxedAutoImplicit false

namespace Rollout.Plan

/-! ### Places -/

/-- The settings of the steps in a plan file. -/
def stepsOf (payload : Value) : List (Value × Value) :=
  fieldsOf ((Value.get? (fieldsOf payload) "steps").getD .null)

def settingsOf (payload : Value) (step : Step) : List (Value × Value) :=
  fieldsOf ((Value.get? (stepsOf payload) step.name).getD .null)

theorem stepsOf_eq {payload : Value} {entries steps : List (Value × Value)}
    (lists : Lists payload entries steps) : stepsOf payload = steps := by
  rw [stepsOf, fieldsOf_eq lists.whole, fieldsOf_eq lists.steps]

/-- The mappings of a plan file have distinct keys: the file itself, its steps, and the settings of
each of them. -/
structure IsKeyed (payload : Value) : Prop where
  entries : Value.Distinct (fieldsOf payload)
  steps : Value.Distinct (stepsOf payload)
  settings {entry : Value × Value} : entry ∈ stepsOf payload → Value.Distinct (fieldsOf entry.2)

/-! ### Readings -/

/-- The words of a command: those into which its line splits, or the texts of its row. -/
def AreWords (raw : Value) (words : List String) : Prop :=
  match wording raw with
  | .line s => Text.Words.split s = .ok words
  | .row items => words = items.map Value.shown
  | .neither => False

theorem refuseEmpty_eq_ok_iff {step : String} {words argv : List String} :
    refuseEmpty step words = .ok argv ↔ argv = words ∧ words ≠ [] := by
  unfold refuseEmpty
  cases words <;> simp [eq_comm]

theorem areWords_of_argv {step : String} {raw : Value} {argv : List String}
    (read : argv? step raw = .ok argv) : AreWords raw argv ∧ argv ≠ [] := by
  rw [argv?_eq] at read
  unfold AreWords
  cases worded : wording raw with
  | line s =>
    simp only [worded] at read ⊢
    obtain ⟨words, split, read⟩ := exists_ok_of_bind read
    obtain ⟨rfl, some⟩ := refuseEmpty_eq_ok_iff.mp read
    cases answer : Text.Words.split s with
    | error fault =>
      rw [answer] at split
      cases split
    | ok found =>
      rw [answer] at split
      cases split
      exact ⟨rfl, some⟩
  | row items =>
    simp only [worded] at read ⊢
    obtain ⟨words, written, read⟩ := exists_ok_of_bind read
    obtain ⟨rfl, some⟩ := refuseEmpty_eq_ok_iff.mp read
    refine ⟨?_, some⟩
    rw [mapM_show_eq (fun v => v)] at written
    split at written
    · cases written
    · exact (Except.ok.inj written).symm
  | neither =>
    simp only [worded] at read
    cases read

theorem AreWords.alone {raw : Value} {words others : List String} (here : AreWords raw words)
    (there : AreWords raw others) : others = words := by
  unfold AreWords at here there
  cases worded : wording raw with
  | line s =>
    simp only [worded] at here there
    exact Except.ok.inj (there.symm.trans here)
  | row items =>
    simp only [worded] at here there
    exact there.trans here.symm
  | neither =>
    simp only [worded] at here

theorem number_of_timeout {raw : Value} {label : String} {seconds : Number.Binary64}
    (read : timeout? raw label = .ok seconds) :
    raw.number? = .ok (some seconds) ∧ seconds.isPositive = true := by
  rw [timeout?_eq] at read
  split at read
  · cases read
  · obtain ⟨quoted, -, read⟩ := exists_ok_of_bind read
    cases read
  · rename_i made answer
    split at read
    · rename_i positive
      cases read
      exact ⟨answer, positive⟩
    · obtain ⟨quoted, -, read⟩ := exists_ok_of_bind read
      cases read

theorem fieldIn_eq_ok {α : Type} {entries : List (Value × Value)} {name : String}
    {read : String → α} {usual result : α} (done : fieldIn entries name read usual = .ok result) :
    result = ((given? entries name).map fun raw => read raw.shown).getD usual := by
  unfold fieldIn at done
  cases found : given? entries name with
  | none =>
    rw [found] at done
    exact (Except.ok.inj done).symm
  | some raw =>
    simp only [found] at done
    cases fault? : raw.writingFault? with
    | some fault =>
      rw [Value.show?_of_unwritable fault?] at done
      cases done
    | none =>
      rw [Value.show?_of_writable fault?] at done
      exact (Except.ok.inj done).symm

section Timeout

variable {plan : Plan} {entries : List (Value × Value)} {timeout : Option Number.Binary64}

theorem timeout_of_null (read : timeoutIn plan entries = .ok timeout)
    (none : timeoutOf entries = .null) : timeout = plan.timeout := by
  rw [timeoutIn_of_null none] at read
  exact (Except.ok.inj read).symm

theorem timeout_of_given (read : timeoutIn plan entries = .ok timeout)
    (given : timeoutOf entries ≠ .null) : ∃ seconds,
      (timeoutOf entries).number? = .ok (some seconds) ∧ seconds.isPositive = true ∧
        timeout = some seconds := by
  rw [timeoutIn_of_given given] at read
  cases answer : timeout? (timeoutOf entries) "timeout" with
  | error fault =>
    rw [answer] at read
    cases read
  | ok seconds =>
    rw [answer] at read
    cases read
    obtain ⟨made, positive⟩ := number_of_timeout answer
    exact ⟨seconds, made, positive, rfl⟩

end Timeout

/-- What the settings of a step make of a command. -/
structure IsOverridden (command after : StepCommand) (settings : List (Value × Value)) : Prop where
  name : after.name = command.name
  argv {raw : Value} : Value.get? settings "command" = some raw →
    AreWords raw after.argv ∧ after.argv ≠ []
  usualArgv : Value.get? settings "command" = none → after.argv = command.argv
  cwd : after.cwd =
    ((given? settings "cwd").map fun raw => some (Path.ofString raw.shown)).getD command.cwd
  description : after.description =
    ((given? settings "description").map Value.shown).getD command.description

theorem isOverridden_of_override {command after : StepCommand} {settings : Value}
    (done : override command (orEmpty settings) = .ok after) :
    IsOverridden command after (fieldsOf settings) := by
  have name := name_of_override done
  rw [override_eq] at done
  unfold fieldsOf
  split at done
  · cases done
  · rename_i entries laid
    rw [laid]
    obtain ⟨argv, words, done⟩ := exists_ok_of_bind done
    obtain ⟨cwd, directory, done⟩ := exists_ok_of_bind done
    obtain ⟨description, text, done⟩ := exists_ok_of_bind done
    cases done
    rw [cwdIn_eq] at directory
    rw [descriptionIn_eq] at text
    refine ⟨name, fun {raw} held => ?_, fun ungiven => ?_, fieldIn_eq_ok directory,
      fieldIn_eq_ok text⟩
    · simp only [argvIn, Option.getD_some] at words held
      rw [held] at words
      exact areWords_of_argv words
    · simp only [argvIn, Option.getD_some] at words ungiven
      rw [ungiven] at words
      exact (Except.ok.inj words).symm

/-! ### Steps one by one -/

/-- What the steps of a plan file make of the command of one step. -/
def commandIn (plan : Plan) (steps : List (Value × Value)) (step : Step) :
    Except Rollout.Fault StepCommand :=
  match Value.get? steps step.name with
  | some settings => override (plan.command step) (orEmpty settings)
  | none => .ok (plan.command step)

theorem eq_of_commands {plan after : Plan} (commands : ∀ step, plan.command step = after.command step)
    (parameter : plan.parameter = after.parameter) (timeout : plan.timeout = after.timeout) :
    plan = after := by
  have rewards := commands .rewards
  have registry := commands .registry
  have tests := commands .tests
  cases plan
  cases after
  cases rewards
  cases registry
  cases tests
  cases parameter
  cases timeout
  rfl

theorem overrideAll_eq_ok_iff {plan after : Plan} {steps : List (Value × Value)}
    (distinct : Value.Distinct steps) :
    overrideAll plan steps = .ok after ↔
      (∀ step, commandIn plan steps step = .ok (after.command step)) ∧
        plan.parameter = after.parameter ∧ plan.timeout = after.timeout := by
  induction steps generalizing plan with
  | nil =>
    constructor
    · intro done
      cases done
      exact ⟨fun _ => rfl, rfl, rfl⟩
    · rintro ⟨commands, parameter, timeout⟩
      have same : plan = after :=
        eq_of_commands (fun step => Except.ok.inj (commands step)) parameter timeout
      exact congrArg Except.ok same
  | cons entry rest ih =>
    obtain ⟨key, settings⟩ := entry
    have distinctRest : Value.Distinct rest := (List.pairwise_cons.mp distinct).2
    rw [overrideAll]
    cases named : stepOf? key with
    | none =>
      have other (step : Step) : key ≠ .text step.name := fun same => by
        cases named.symm.trans (stepOf?_eq_some_iff.mpr same)
      have passed (step : Step) : commandIn plan ((key, settings) :: rest) step =
          commandIn plan rest step := by
        unfold commandIn
        rw [Value.get?_cons_of_ne (other step)]
      simp only [passed]
      exact ih distinctRest
    | some first =>
      obtain rfl := stepOf?_eq_some_iff.mp named
      dsimp only
      have here : commandIn plan ((.text first.name, settings) :: rest) first =
          override (plan.command first) (orEmpty settings) := by
        unfold commandIn
        rw [Value.get?_cons_self]
      -- No later entry has the name of this step again, and this one has no other name.
      have kept (command : StepCommand) :
          commandIn (plan.withCommand first command) rest first = .ok command := by
        unfold commandIn
        rw [distinct.get?_eq_none, command_withCommand, if_pos rfl]
      have elsewhere (command : StepCommand) {step : Step} (other : step ≠ first) :
          commandIn (plan.withCommand first command) rest step =
            commandIn plan ((.text first.name, settings) :: rest) step := by
        have key : Value.text first.name ≠ .text step.name := fun same =>
          other (Step.name_injective (Value.text.inj same)).symm
        unfold commandIn
        rw [Value.get?_cons_of_ne key, command_withCommand, if_neg other]
      constructor
      · intro done
        obtain ⟨command, overridden, done⟩ := exists_ok_of_bind done
        obtain ⟨commands, parameter, timeout⟩ := (ih distinctRest).mp done
        rw [parameter_withCommand] at parameter
        rw [timeout_withCommand] at timeout
        refine ⟨fun step => ?_, parameter, timeout⟩
        by_cases same : step = first
        · subst same
          rw [here, overridden, ← kept command, commands step]
        · rw [← elsewhere command same, commands step]
      · rintro ⟨commands, parameter, timeout⟩
        have overridden := here.symm.trans (commands first)
        rw [overridden]
        refine (ih distinctRest).mpr ⟨fun step => ?_, (parameter_withCommand ..).trans parameter,
          (timeout_withCommand ..).trans timeout⟩
        by_cases same : step = first
        · rw [same, kept]
        · rw [elsewhere _ same, commands step]

theorem command_of_overrideAll {plan after : Plan} {steps : List (Value × Value)}
    (distinct : Value.Distinct steps) (done : overrideAll plan steps = .ok after) (step : Step) :
    IsOverridden (plan.command step) (after.command step)
      (fieldsOf ((Value.get? steps step.name).getD .null)) := by
  have overridden := ((overrideAll_eq_ok_iff distinct).mp done).1 step
  unfold commandIn at overridden
  cases found : Value.get? steps step.name with
  | none =>
    rw [found] at overridden
    rw [← Except.ok.inj overridden]
    exact ⟨rfl, nofun, fun _ => rfl, rfl, rfl⟩
  | some settings =>
    rw [found] at overridden
    exact isOverridden_of_override overridden

/-! ### Plans -/

/-- A plan is what a plan file makes of the usual plan: each field is the one given in its place, and
the usual one where none is given. -/
structure IsMade (make : String) (payload : Value) (plan : Plan) : Prop where
  command (step : Step) :
    IsOverridden (usualCommand make step) (plan.command step) (settingsOf payload step)
  parameter : plan.parameter =
    ((given? (fieldsOf payload) "parameter").map Value.shown).getD usualParameter
  timeout : timeoutOf (fieldsOf payload) ≠ .null → ∃ seconds,
    (timeoutOf (fieldsOf payload)).number? = .ok (some seconds) ∧ seconds.isPositive = true ∧
      plan.timeout = some seconds
  noTimeout : timeoutOf (fieldsOf payload) = .null → plan.timeout = none

theorem parameter_of_payload {make : String} {payload : Value} {plan : Plan}
    (read : ofPayload make payload = .ok plan) : plan.parameter =
      ((given? (fieldsOf payload) "parameter").map Value.shown).getD usualParameter := by
  obtain ⟨entries, steps, base, parameter, timeout, whole, -, -, overridden, text, -, rfl⟩ :=
    ofPayload_eq_ok_iff.mp read
  have usual : base.parameter = usualParameter := parameter_of_overrideAll overridden
  rw [parameterIn_eq, usual] at text
  rw [fieldsOf_eq (laysOut_iff.mpr whole)]
  exact fieldIn_eq_ok text

theorem isMade_of_payload {make : String} {payload : Value} {plan : Plan}
    (distinct : Value.Distinct (stepsOf payload)) (read : ofPayload make payload = .ok plan) :
    IsMade make payload plan := by
  have parameter := parameter_of_payload read
  obtain ⟨entries, steps, base, _, timeout, whole, listed, -, overridden, -, duration, rfl⟩ :=
    ofPayload_eq_ok_iff.mp read
  have lists : Lists payload entries steps := ⟨laysOut_iff.mpr whole, laysOut_iff.mpr listed⟩
  rw [stepsOf_eq lists] at distinct
  obtain ⟨-, -, usualTimeout⟩ := (overrideAll_eq_ok_iff distinct).mp overridden
  have fields := fieldsOf_eq lists.whole
  refine ⟨fun step => ?_, parameter, ?_, ?_⟩
  · have made := command_of_overrideAll distinct overridden step
    rw [settingsOf, stepsOf_eq lists]
    cases step <;> exact made
  · rw [fields]
    exact fun given => timeout_of_given duration given
  · rw [fields]
    exact fun none => (timeout_of_null duration none).trans usualTimeout.symm

namespace IsMade

variable {make : String} {payload : Value} {plan : Plan}

theorem argv_ne_nil (made : IsMade make payload plan) (step : Step) :
    (plan.command step).argv ≠ [] := by
  cases held : Value.get? (settingsOf payload step) "command" with
  | some raw => exact ((made.command step).argv held).2
  | none =>
    rw [(made.command step).usualArgv held]
    cases step <;> exact nofun

theorem parameter_ne_empty (made : IsMade make payload plan) : plan.parameter ≠ "" := by
  rw [made.parameter]
  cases found : given? (fieldsOf payload) "parameter" with
  | none => decide
  | some raw => exact Value.shown_ne_empty (Option.filter_eq_some_iff.mp found).2

theorem command_eq (made : IsMade make payload plan) {make' : String} {plan' : Plan}
    (made' : IsMade make' payload plan') (step : Step) :
    plan'.command step = { plan.command step with
      argv := match Value.get? (settingsOf payload step) "command" with
        | some _ => (plan.command step).argv
        | none => make' :: (plan.command step).argv.tail } := by
  have here := made.command step
  have there := made'.command step
  have name := there.name.trans here.name.symm
  have cwd := there.cwd.trans here.cwd.symm
  have description := there.description.trans here.description.symm
  have argv : (plan'.command step).argv =
      match Value.get? (settingsOf payload step) "command" with
        | some _ => (plan.command step).argv
        | none => make' :: (plan.command step).argv.tail := by
    cases held : Value.get? (settingsOf payload step) "command" with
    | some raw => exact (here.argv held).1.alone (there.argv held).1
    | none =>
      rw [there.usualArgv held, here.usualArgv held]
      cases step <;> rfl
  rw [← argv]
  dsimp only
  rw [← name, ← cwd, ← description]

theorem timeout_eq (made : IsMade make payload plan) {make' : String} {other : Value} {plan' : Plan}
    (made' : IsMade make' other plan')
    (same : timeoutOf (fieldsOf payload) = timeoutOf (fieldsOf other)) :
    plan.timeout = plan'.timeout := by
  by_cases none : timeoutOf (fieldsOf payload) = .null
  · rw [made.noTimeout none, made'.noTimeout (same ▸ none)]
  · obtain ⟨seconds, read, -, timed⟩ := made.timeout none
    obtain ⟨seconds', read', -, timed'⟩ := made'.timeout (same ▸ none)
    rw [← same, read] at read'
    cases read'
    rw [timed, timed']

end IsMade

/-- Two plans have the same in a field if their files give the same in its place. -/
structure Alike (payload other : Value) (plan plan' : Plan) : Prop where
  argv (step : Step) : Value.get? (settingsOf payload step) "command" =
    Value.get? (settingsOf other step) "command" →
      (plan.command step).argv = (plan'.command step).argv
  cwd (step : Step) : given? (settingsOf payload step) "cwd" = given? (settingsOf other step) "cwd" →
    (plan.command step).cwd = (plan'.command step).cwd
  description (step : Step) : given? (settingsOf payload step) "description" =
    given? (settingsOf other step) "description" →
      (plan.command step).description = (plan'.command step).description
  parameter : given? (fieldsOf payload) "parameter" = given? (fieldsOf other) "parameter" →
    plan.parameter = plan'.parameter
  timeout : timeoutOf (fieldsOf payload) = timeoutOf (fieldsOf other) → plan.timeout = plan'.timeout

theorem IsMade.alike {make : String} {payload other : Value} {plan plan' : Plan}
    (made : IsMade make payload plan) (made' : IsMade make other plan') :
    Alike payload other plan plan' where
  argv step same := by
    cases held : Value.get? (settingsOf payload step) "command" with
    | some raw =>
      have here := ((made.command step).argv held).1
      exact ((made'.command step).argv (same ▸ held)).1.alone here
    | none =>
      rw [(made.command step).usualArgv held, (made'.command step).usualArgv (same ▸ held)]
  cwd step same := by rw [(made.command step).cwd, (made'.command step).cwd, same]
  description step same := by
    rw [(made.command step).description, (made'.command step).description, same]
  parameter same := by rw [made.parameter, made'.parameter, same]
  timeout same := made.timeout_eq made' same

/-- Every plan that a file describes has the three steps under their own names, with words, and a
parameter; each of its fields is read from one place of the file, and another make program changes
only the first words of commands that the file does not give. -/
theorem made_of_accepted {make : String} {payload : Value} {plan : Plan}
    (distinct : Value.Distinct (stepsOf payload)) (accepted : ofPayload make payload = .ok plan) :
    Entries.names plan.steps = ["deploy-rewards", "deploy-super", "test-program"] ∧
      (∀ entry ∈ plan.steps, entry.2.name = entry.1 ∧ entry.2.argv ≠ []) ∧
      plan.parameter ≠ "" ∧
      IsMade make payload plan ∧
      (∀ other plan', Value.Distinct (stepsOf other) → ofPayload make other = .ok plan' →
        Alike payload other plan plan') ∧
      ∀ make', ∃ plan', ofPayload make' payload = .ok plan' ∧
        plan'.parameter = plan.parameter ∧ plan'.timeout = plan.timeout ∧
        ∀ step, plan'.command step = { plan.command step with
          argv := match Value.get? (settingsOf payload step) "command" with
            | some _ => (plan.command step).argv
            | none => make' :: (plan.command step).argv.tail } := by
  have made := isMade_of_payload distinct accepted
  refine ⟨rfl, ?_, made.parameter_ne_empty, made, ?_, ?_⟩
  · intro entry mem
    obtain ⟨step, -, rfl⟩ := List.mem_map.mp mem
    exact ⟨isNamed_of_payload accepted step, made.argv_ne_nil step⟩
  · intro other plan' distinct' accepted'
    exact made.alike (isMade_of_payload distinct' accepted')
  · intro make'
    have sound := (decides_ofPayload make payload).exists_ok_iff.mp ⟨plan, accepted⟩
    obtain ⟨plan', accepted'⟩ := (decides_ofPayload make' payload).exists_ok_iff.mpr sound
    have made' := isMade_of_payload distinct accepted'
    exact ⟨plan', accepted', made'.parameter.trans made.parameter.symm, made'.timeout_eq made rfl,
      made.command_eq made'⟩

/-- A plan file that gives one command as a row, and much else as nothing. -/
private def sparse : Value :=
  .map [(.text "steps", .map [
      (.text "deploy-super", .map [(.text "command", .list [.text "./deploy", .int 3]),
        (.text "cwd", .int 0), (.text "description", .bool true)]),
      (.text "test-program", .null)]),
    (.text "parameter", .list []), (.text "timeout", .null)]

/-- The command that is given stays as it is for another make program. -/
theorem made_of_accepted_sparse :
    let plan : Plan := { usual "gmake" with
      registry := ⟨"deploy-super", ["./deploy", "3"], none, "True"⟩ }
    Value.Distinct (stepsOf sparse) ∧ ofPayload "gmake" sparse = .ok plan ∧ IsMade "gmake" sparse plan ∧
      ∃ plan', ofPayload "make" sparse = .ok plan' ∧ plan'.registry = plan.registry ∧
        plan'.rewards.argv = ["make", "-s", "-C", "../rewards", "deploy"] := by
  intro plan
  have distinct : Value.Distinct (stepsOf sparse) := by
    show List.Pairwise _ [_, _]
    decide
  have accepted : ofPayload "gmake" sparse = .ok plan := rfl
  obtain ⟨-, -, -, made, -, makes⟩ := made_of_accepted distinct accepted
  obtain ⟨plan', accepted', -, -, commands⟩ := makes "make"
  exact ⟨distinct, accepted, made, plan', accepted', commands .registry,
    congrArg StepCommand.argv (commands .rewards)⟩

end Rollout.Plan
