import Rollout.Proofs.Cli.Commands
import Rollout.Proofs.Session.Timeouts

/-!
The timeouts of the commands that the program runs.

Whatever the program is asked to do, the commands that it runs have the timeout of the context that it
works in. That is usable, unless the environment or the plan file gives one that is read as infinity.
-/

set_option autoImplicit false
set_option relaxedAutoImplicit false

namespace Rollout

open Number (Binary64 NamesInfinity)

namespace Act

variable {σ α β : Type} {p : Call → Prop} {s : σ}

/-- Every command that an act runs from a state has a property. -/
def CallsOnly (p : Call → Prop) (act : Act σ α) (s : σ) : Prop :=
  ∀ call ∈ Event.calls (act s).events, p call

theorem callsOnly_of_silent {act : Act σ α} (silent : Event.calls (act s).events = []) :
    CallsOnly p act s := by
  intro call mem
  rw [silent] at mem
  cases mem

theorem callsOnly_pure (a : α) : CallsOnly p (pure a : Act σ α) s := callsOnly_of_silent rfl

theorem CallsOnly.bind {act : Act σ α} {next : α → Act σ β} (first : CallsOnly p act s)
    (rest : ∀ a s', CallsOnly p (next a) s') : CallsOnly p (act >>= next) s := by
  intro call mem
  cases answer : (act s).answer with
  | ok a =>
    rw [bind_of_ok answer, Event.calls_append] at mem
    rcases List.mem_append.mp mem with here | later
    · exact first call here
    · exact rest a _ call later
  | error fault =>
    rw [bind_of_error answer] at mem
    exact first call mem

theorem callsOnly_ofExcept_bind {answer : Except Fault α} {next : α → Act σ β}
    (rest : ∀ a, answer = .ok a → CallsOnly p (next a) s) :
    CallsOnly p (Act.ofExcept answer >>= next) s := by
  cases answer with
  | ok a => exact rest a rfl
  | error fault => exact callsOnly_of_silent rfl

theorem callsOnly_forIn {γ : Type} (row : List γ) {body : γ → PUnit → Act σ (ForInStep PUnit)}
    (each : ∀ c step s', CallsOnly p (body c step) s') (start : PUnit) :
    CallsOnly p (forIn row start body) s := by
  induction row generalizing start s with
  | nil => exact callsOnly_of_silent rfl
  | cons c rest ih =>
    rw [List.forIn_cons]
    refine (each c start s).bind fun step s' => ?_
    cases step with
    | done => exact callsOnly_of_silent rfl
    | yield next => exact ih next

end Act

namespace Cli

variable {σ : Type} (host : Host σ) {situation : Situation}

/-- A command has the timeout of the context that the program works in. -/
def HasTimeout (situation : Situation) (call : Call) : Prop :=
  ∃ context, situation.context = .ok context ∧ call.timeout = context.timeout

theorem callsOnly_exitCode {p : Call → Prop} {act : Act σ Int} {s : σ} (only : act.CallsOnly p s) :
    (exitCode act).CallsOnly p s := by
  have tried : (Act.attempt act).CallsOnly p s := only
  refine tried.bind fun answer s' => ?_
  cases answer with
  | ok code => exact Act.callsOnly_of_silent rfl
  | error fault => cases fault <;> exact Act.callsOnly_of_silent rfl

section Loaded

variable {context : Context} (loaded : situation.context = .ok context)
include loaded

theorem callsOnly_runStep {catalogue : Catalogue σ} (every : catalogue.Every Stage.IsTimed)
    {started : Context} (same : started.timeout = context.timeout) (step : Step) (world : σ) :
    (runStep host catalogue started step).CallsOnly (HasTimeout situation) world := by
  have stage : (Desk.runStage host catalogue step.name).CallsOnly (HasTimeout situation)
      ⟨started, world⟩ := fun call mem =>
    ⟨context, loaded, (Desk.timeout_of_mem_calls host every step.name _ mem).trans same⟩
  exact callsOnly_exitCode (stage.bind fun _ _ => Act.callsOnly_pure _)

theorem callsOnly_runSequence (world : σ) :
    (atDesk context (Desk.runSequence host)).CallsOnly (HasTimeout situation) world :=
  fun _ mem => ⟨context, loaded, Bench.timeout_of_mem_calls host ⟨context, world⟩ mem⟩

end Loaded

theorem every_refusing : (refusing host).Every Stage.IsTimed := by
  intro name stage held
  by_cases here : name = Step.tests.name
  · rw [here, refusing, Entries.get?_put_self] at held
    cases held
    exact fun _ _ _ mem => nomatch mem
  · rw [refusing, Entries.get?_put_of_ne _ _ here] at held
    exact Catalogue.every_usual (Stage.isTimed_ofStep host) name stage held

theorem callsOnly_extractFrom (text : String) (world : σ) {p : Call → Prop} :
    (extractFrom text : Act σ Int).CallsOnly p world := by
  unfold extractFrom
  split <;> exact Act.callsOnly_of_silent rfl

theorem callsOnly_perform (command : Command) (world : σ) :
    (perform host situation command).CallsOnly (HasTimeout situation) world := by
  cases command with
  | run =>
    refine Act.callsOnly_ofExcept_bind fun context loaded => ?_
    refine Act.CallsOnly.bind (Act.callsOnly_of_silent rfl) fun _ s => ?_
    refine (callsOnly_runSequence host loaded s).bind fun ended s' => ?_
    obtain ⟨report, _⟩ := ended
    dsimp only
    split <;> exact Act.callsOnly_of_silent rfl
  | stages =>
    refine Act.CallsOnly.bind (Act.callsOnly_of_silent rfl) fun _ s => ?_
    refine Act.CallsOnly.bind ?_ fun _ _ => Act.callsOnly_pure _
    exact Act.callsOnly_forIn _ (fun _ _ _ => Act.callsOnly_of_silent rfl) _
  | plan =>
    refine Act.callsOnly_ofExcept_bind fun context loaded => ?_
    refine Act.CallsOnly.bind ?_ fun _ _ => Act.callsOnly_pure _
    exact Act.callsOnly_forIn _ (fun _ _ _ => Act.callsOnly_of_silent rfl) _
  | extract file =>
    cases file with
    | none => exact Act.callsOnly_ofExcept_bind fun text _ => callsOnly_extractFrom text world
    | some name =>
      simp only [perform, extract]
      split
      · exact callsOnly_extractFrom _ world
      · exact Act.callsOnly_of_silent rfl
      · exact Act.callsOnly_of_silent rfl
  | deployRewards =>
    refine Act.callsOnly_ofExcept_bind fun context loaded => ?_
    have every := Catalogue.every_usual (Stage.isTimed_ofStep host)
    refine (callsOnly_runStep host loaded every rfl .rewards world).bind fun ended s => ?_
    obtain ⟨code, after⟩ := ended
    dsimp only
    split
    · split <;> exact Act.callsOnly_of_silent rfl
    · exact Act.callsOnly_of_silent rfl
  | deployRegistry =>
    refine Act.callsOnly_ofExcept_bind fun context loaded => ?_
    have every := Catalogue.every_usual (Stage.isTimed_ofStep host)
    refine (callsOnly_runStep host loaded every rfl .registry world).bind fun ended s => ?_
    exact Act.callsOnly_pure ended.1
  | runTests programId =>
    refine Act.callsOnly_ofExcept_bind fun context loaded => ?_
    have every : (if programId.isSome then Catalogue.usual host else refusing host).Every
        Stage.IsTimed := by
      split
      · exact Catalogue.every_usual (Stage.isTimed_ofStep host)
      · exact every_refusing host
    have same : (context.record Step.rewards.name ⟨Step.rewards.name, none, programId⟩).timeout =
      context.timeout := rfl
    refine (callsOnly_runStep host loaded every same .tests world).bind fun ended s => ?_
    exact Act.callsOnly_pure ended.1

theorem callsOnly_obey (arguments : List String) (world : σ) :
    (obey host situation arguments).CallsOnly (HasTimeout situation) world := by
  unfold obey
  cases read arguments with
  | error refusal =>
    simp only [refuse]
    split <;> exact Act.callsOnly_of_silent rfl
  | ok command =>
    have tried : (Act.attempt (perform host situation command)).CallsOnly (HasTimeout situation)
        world := callsOnly_perform host command world
    refine tried.bind fun answer s' => ?_
    split <;> exact Act.callsOnly_of_silent rfl

end Cli

/-- A value is read as a timeout that is usable, or refused with a plan fault, exactly if it does not
slip through: if it is not read as infinity, and neither a whole number out of range nor a collection
with a number too long to be told. What slips through does so under every label. A plan fault tells
the label and the value, and a timeout is a number of the format, if the value is not an odd float
itself. So the timeout of settings is usable unless the text in the environment names infinity,
and settings that cannot be read are a plan fault or one of the disk; the timeout of a plan is usable
unless its file gives one without end, and a plan file that is accepted without a timeout answers
with one as the timeout does. The commands of the program have no timeout, or a usable one, or one
without end that was given to it, and those of a session have only timeouts that it had or was
brought. Under a timeout without end a command whose output is kept is not waited for. -/
theorem timeouts_of_commands (raw : Value) (label : String) :
    (Plan.IsProper (Plan.timeout? raw label) ↔ ∀ answer, ¬Plan.Slips raw answer) ∧
    (∀ answer, Plan.Slips raw answer → Plan.timeout? raw label = answer) ∧
    (∀ told, Plan.timeout? raw label = .error (.plan told) → Plan.IsRefusal label raw told) ∧
    (∀ seconds, Plan.timeout? raw label = .ok seconds →
      (∀ x, raw = .float x → x.IsNumber) → seconds.IsNumber) ∧
    (∀ disk environment,
      (∀ settings, Settings.load disk environment = .ok settings →
        environment.given? Settings.timeoutLabel = none ∧ settings.timeout = none ∨
          ∃ text seconds, environment.given? Settings.timeoutLabel = some text ∧
            settings.timeout = some seconds ∧
            (seconds.IsUsable ∨ seconds = .infinite false ∧ NamesInfinity text)) ∧
      ∀ fault, Settings.load disk environment = .error fault →
        (∃ told, fault = .plan told) ∨ (∃ unresolved, fault = .unresolved unresolved) ∨
          ∃ failure, fault = .disk failure) ∧
    (∀ make payload plan, Plan.ofPayload make payload = .ok plan →
      let raw := Plan.timeoutOf (Plan.fieldsOf payload)
      raw = .null ∧ plan.timeout = none ∨
        ∃ seconds, plan.timeout = some seconds ∧
          (seconds.IsUsable ∨ seconds = .infinite false ∧ raw.IsEndless)) ∧
    (∀ make around raw plan, raw ≠ .null →
      Value.Distinct (Plan.Around.entries around "timeout" raw) →
      Plan.ofPayload make (around.holding "timeout" .null) = .ok plan →
      Plan.ofPayload make (around.holding "timeout" raw) =
        (Plan.timeout? raw "timeout").map fun seconds => { plan with timeout := some seconds }) ∧
    (∀ {σ : Type} (host : Host σ) (situation : Cli.Situation) (arguments : List String) (world : σ),
      ∀ call ∈ Event.calls (Cli.obey host situation arguments world).events,
        call.timeout = none ∨ ∃ seconds, call.timeout = some seconds ∧
          (seconds.IsUsable ∨ seconds = .infinite false ∧
            Context.GivesEndless situation.disk situation.environment)) ∧
    (∀ {σ : Type} (host : Host σ), (Catalogue.usual host).Every Stage.IsTimed ∧
      ∀ (p : Binary64 → Prop) (catalogue : Catalogue σ) (desk : Desk σ)
          (operations : List (Operation σ)),
        catalogue.Every Stage.IsTimed → desk.context.IsTimed p →
        (∀ operation ∈ operations, operation.IsTimed p) →
        ∀ call ∈ Event.calls (Session.events host operations (Session.opened catalogue desk)),
          ∀ seconds, call.timeout = some seconds → p seconds) ∧
    ∀ (call : Call) (world : Machine.World) image place,
      Machine.fault? world.environment call = none →
      Machine.begin world.disk (Machine.environmentFor world.environment call) call =
        .ok (image, place) →
      call.capture = true → call.timeout = some (.infinite false) →
      (Machine.launch call world).answer = .error .unboundedWait := by
  have cases := Plan.timeout?_cases raw label
  refine ⟨?_, fun answer slips => Plan.timeout?_of_slips slips label, ?_, ?_, ?_, ?_, ?_, ?_, ?_, ?_⟩
  · constructor
    · intro proper answer slips
      rw [Plan.timeout?_of_slips slips label] at proper
      exact slips.not_isProper proper
    · intro firm
      rcases cases with usable | ⟨told, refused, -⟩ | slips
      · exact .inl usable
      · exact .inr ⟨told, refused⟩
      · exact absurd slips (firm _)
  · intro told refused
    rcases cases with ⟨seconds, read, -⟩ | ⟨told', refused', refusal⟩ | slips
    · cases read.symm.trans refused
    · cases refused'.symm.trans refused
      exact refusal
    · exact absurd (.inr ⟨told, refused⟩) slips.not_isProper
  · intro seconds read given
    exact Value.isNumber_of_number? (Plan.number_of_timeout read).1 given
  · intro disk environment
    refine ⟨fun settings loaded => ?_, fun fault => Settings.fault_of_load⟩
    rcases Settings.timeout_of_load loaded with nothing | ⟨text, seconds, given, read, timed⟩
    · exact .inl nothing
    · refine .inr ⟨text, seconds, given, timed, (Plan.usable_of_timeout read).imp_right ?_⟩
      rintro ⟨endless, reads⟩
      exact ⟨endless, (Plan.Slips.endless reads).of_text.1⟩
  · intro make payload plan accepted raw
    rcases Plan.timeout_of_payload accepted with nothing | ⟨seconds, read, timed⟩
    · exact .inl nothing
    · exact .inr ⟨seconds, timed, Plan.usable_of_timeout read⟩
  · intro make around raw plan given distinct accepted
    exact Plan.ofPayload_timed make around given distinct accepted
  · intro σ host situation arguments world call mem
    obtain ⟨context, loaded, heeds⟩ := Cli.callsOnly_obey host arguments world call mem
    cases given : call.timeout with
    | none => exact .inl rfl
    | some seconds =>
      have timed := Context.isTimed_of_load loaded
      exact .inr ⟨seconds, rfl, timed.timeout (heeds.symm.trans given)⟩
  · intro σ host
    refine ⟨Catalogue.every_usual (Stage.isTimed_ofStep host), ?_⟩
    intro p catalogue desk operations every timed brings call mem seconds given
    exact Session.timeout_of_mem_calls every timed brings mem given
  · intro call world image place sound begins kept endless
    exact Machine.launch_of_endless sound kept endless begins

/-- The word for infinity is taken for a timeout, and a whole number out of range is no plan fault. -/
theorem infinity_slips_through :
    ¬Plan.IsProper (Plan.timeout? (.text "inf") "timeout") ∧
      ¬Plan.IsProper (Plan.timeout? (.int (10 ^ 400)) "timeout") := by
  have unsigned : Number.sign (Text.stripWhile Number.isNumeralBlank "inf".toList) =
      (false, ['i', 'n', 'f']) := by decide
  have endless : Plan.Slips (.text "inf") (.ok (.infinite false)) :=
    .endless (.inr ⟨"inf", .text "inf", .word unsigned (by decide)⟩)
  have overflow : Plan.Slips (.int (10 ^ 400)) (.error (.value .overflow)) :=
    .overflow rfl (by decide +kernel)
  rw [Plan.timeout?_of_slips endless, Plan.timeout?_of_slips overflow]
  exact ⟨endless.not_isProper, overflow.not_isProper⟩

end Rollout
