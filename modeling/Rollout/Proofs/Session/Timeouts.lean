import Rollout.Proofs.Plan.Duration
import Rollout.Proofs.Session.Environments

/-!
The timeouts of the commands of a session.

A command has the timeout of the context that its stage runs in: the one of the settings, and else the
one of the plan. Both are read from texts and values that should be durations. So a command without a
usable timeout has none, or was given one without end.
-/

set_option autoImplicit false
set_option relaxedAutoImplicit false

namespace Rollout

open Number (Binary64 NamesInfinity)

/-! ### Settings -/

namespace Settings

variable {disk : Disk} {environment : Environment}

theorem timeout_of_load {settings : Settings} (loaded : load disk environment = .ok settings) :
    environment.given? timeoutLabel = none ∧ settings.timeout = none ∨
      ∃ text seconds, environment.given? timeoutLabel = some text ∧
        Plan.timeout? (.text text) timeoutLabel = .ok seconds ∧
        settings.timeout = some seconds := by
  obtain ⟨workspace, -, loaded⟩ := exists_ok_of_bind loaded
  obtain ⟨planPath, -, loaded⟩ := exists_ok_of_bind loaded
  cases given : environment.given? timeoutLabel with
  | none =>
    rw [given] at loaded
    cases loaded
    exact .inl ⟨rfl, rfl⟩
  | some text =>
    rw [given] at loaded
    obtain ⟨timeout, timed, loaded⟩ := exists_ok_of_bind loaded
    cases loaded
    cases read : Plan.timeout? (.text text) timeoutLabel with
    | error fault =>
      rw [read] at timed
      cases timed
    | ok seconds =>
      rw [read] at timed
      cases timed
      exact .inr ⟨text, seconds, rfl, read, rfl⟩

theorem fault_of_load {fault : Fault} (failed : load disk environment = .error fault) :
    (∃ told, fault = .plan told) ∨ (∃ unresolved, fault = .unresolved unresolved) ∨
      ∃ failure, fault = .disk failure := by
  rcases error_of_bind failed with unresolved | ⟨workspace, -, failed⟩
  · exact .inr (.inl (error_of_mapError unresolved))
  rcases error_of_bind failed with unplanned | ⟨planPath, -, failed⟩
  · refine .inr (.inr ?_)
    unfold planPath? at unplanned
    split at unplanned
    · cases unplanned
    · rcases error_of_bind unplanned with absent | ⟨found, -, told⟩
      · exact error_of_mapError absent
      · cases told
  · refine .inl ?_
    cases given : environment.given? timeoutLabel with
    | none =>
      rw [given] at failed
      cases failed
    | some text =>
      rw [given] at failed
      rcases error_of_bind failed with untimed | ⟨timeout, -, told⟩
      · rcases Plan.timeout?_cases (.text text) timeoutLabel with
          ⟨seconds, read, -⟩ | ⟨told, read, -⟩ | slips
        · rw [read] at untimed
          cases untimed
        · rw [read] at untimed
          cases untimed
          exact ⟨told, rfl⟩
        · rw [slips.of_text.2] at untimed
          cases untimed
      · cases told

end Settings

/-! ### Contexts -/

namespace Context

/-- The timeouts of a context have a property: that of its settings and that of its plan. -/
structure IsTimed (p : Binary64 → Prop) (context : Context) : Prop where
  settings : ∀ seconds, context.settings.timeout = some seconds → p seconds
  plan : ∀ seconds, context.plan.timeout = some seconds → p seconds

theorem IsTimed.timeout {p : Binary64 → Prop} {context : Context} (timed : context.IsTimed p)
    {seconds : Binary64} (given : context.timeout = some seconds) : p seconds := by
  rcases Option.or_eq_some_iff.mp given with early | ⟨-, late⟩
  · exact timed.settings seconds early
  · exact timed.plan seconds late

/-- The environment or the plan file gives a timeout that is read as infinity. -/
def GivesEndless (disk : Disk) (environment : Environment) : Prop :=
  (∃ text, environment.given? Settings.timeoutLabel = some text ∧ NamesInfinity text) ∨
    ∃ settings path payload, Settings.load disk environment = .ok settings ∧
      settings.planPath = some path ∧ Plan.Holds disk path payload ∧
        (Plan.timeoutOf (Plan.fieldsOf payload)).IsEndless

theorem isTimed_of_load {disk : Disk} {environment : Environment} {now : Moment} {context : Context}
    (loaded : load disk environment now = .ok context) :
    context.IsTimed fun seconds =>
      seconds.IsUsable ∨ seconds = .infinite false ∧ GivesEndless disk environment := by
  obtain ⟨settings, given, loaded⟩ := exists_ok_of_bind loaded
  obtain ⟨plan, planned, loaded⟩ := exists_ok_of_bind loaded
  cases loaded
  refine ⟨fun seconds timed => ?_, fun seconds timed => ?_⟩
  · rcases Settings.timeout_of_load given with ⟨-, none⟩ | ⟨text, seconds', named, read, held⟩
    · cases none.symm.trans timed
    · cases held.symm.trans timed
      refine (Plan.usable_of_timeout read).imp_right ?_
      rintro ⟨endless, reads⟩
      refine ⟨endless, .inl ?_⟩
      exact ⟨text, named, (Plan.Slips.endless reads).of_text.1⟩
  · refine (Plan.timeout_of_load planned timed).imp_right ?_
    rintro ⟨endless, path, payload, named, holds, reads⟩
    exact ⟨endless, .inr ⟨settings, path, payload, given, named, holds, reads⟩⟩

end Context

/-! ### Stages -/

namespace Stage

variable {σ : Type}

def IsTimed (stage : Stage σ) : Prop :=
  ∀ context world, ∀ call ∈ Event.calls (stage.action context world).events,
    call.timeout = context.timeout

theorem isTimed_ofStep (host : Host σ) (step : Step) : (ofStep host step).IsTimed := by
  intro context world call mem
  obtain ⟨programId, rfl⟩ := exists_callWith_of_mem_calls host mem
  cases step <;> rfl

end Stage

section Executions

variable {σ : Type} {host : Host σ} {catalogue : Catalogue σ}

theorem Execution.timeout_of_mem_calls {execution : Execution σ} (timed : execution.stage.IsTimed)
    {call : Call} (mem : call ∈ Event.calls (execution.events host)) :
    call.timeout = execution.desk.context.timeout := by
  rw [Execution.calls_events] at mem
  exact timed _ _ call mem

theorem Desk.preserves_of_record (holds : Context → Prop)
    (keeps : ∀ context name outcome, holds context → holds (context.record name outcome))
    (name : String) :
    Act.Preserves (fun desk => holds desk.context) (Desk.runStage host catalogue name) := by
  intro desk held
  rw [Desk.context_of_runStage]
  cases (Desk.runStage host catalogue name desk).answer.toOption.join with
  | none => exact held
  | some outcome => exact keeps desk.context name outcome held

end Executions

/-! ### Sessions -/

/-- An operation brings only timeouts with a property, and only stages that heed the context's. -/
def Operation.IsTimed {σ : Type} (p : Binary64 → Prop) : Operation σ → Prop
  | .setTimeout timeout => ∀ seconds, timeout = some seconds → p seconds
  | .setPlan plan => ∀ seconds, plan.timeout = some seconds → p seconds
  | .register _ stage => stage.IsTimed
  | _ => True

namespace Session

variable {σ : Type} {host : Host σ} {p : Binary64 → Prop} {session : Session σ}

theorem isTimed_runStage (catalogue : Catalogue σ) (name : String) :
    Act.Preserves (fun desk => desk.context.IsTimed p) (Desk.runStage host catalogue name) :=
  Desk.preserves_of_record (fun context => context.IsTimed p)
    (fun _ _ _ timed => ⟨timed.settings, timed.plan⟩) name

theorem isTimed_perform {operation : Operation σ} (timed : session.bench.desk.context.IsTimed p)
    (brings : operation.IsTimed p) :
    (perform host operation session).state.bench.desk.context.IsTimed p := by
  rw [state_perform]
  cases operation with
  | run =>
    exact Bench.preserves_run host session.catalogue (isTimed_runStage session.catalogue)
      session.bench timed
  | runFresh =>
    exact Bench.preserves_run host (.usual host) (isTimed_runStage (.usual host))
      ⟨.fresh, session.bench.desk⟩ timed
  | runStage name => exact isTimed_runStage session.catalogue name session.bench.desk timed
  | register name stage =>
    simp only
    split <;> exact timed
  | setTimeout timeout => exact ⟨brings, timed.plan⟩
  | setPlan plan => exact ⟨timed.settings, brings⟩
  | setOutcome | dropOutcome => exact ⟨timed.settings, timed.plan⟩
  | _ => exact timed

theorem isTimed_of_mem_executionsOf (timed : session.bench.desk.context.IsTimed p)
    {operation : Operation σ} {execution : Execution σ}
    (mem : execution ∈ executionsOf host session operation) :
    execution.desk.context.IsTimed p := by
  cases operation with
  | run => exact Bench.holds_of_mem_executions host (isTimed_runStage session.catalogue) timed mem
  | runFresh =>
    have held : (⟨.fresh, session.bench.desk⟩ : Bench σ).desk.context.IsTimed p := timed
    exact Bench.holds_of_mem_executions host (isTimed_runStage (.usual host)) held mem
  | runStage name =>
    simp only [executionsOf, Desk.execution?, Option.toList_map, List.mem_map,
      Option.mem_toList] at mem
    obtain ⟨stage, -, rfl⟩ := mem
    exact timed
  | _ => cases mem

theorem isTimed_of_mem_executions {operations : List (Operation σ)}
    (timed : session.bench.desk.context.IsTimed p)
    (brings : ∀ operation ∈ operations, operation.IsTimed p) {execution : Execution σ}
    (mem : execution ∈ executions host operations session) :
    execution.desk.context.IsTimed p := by
  induction operations generalizing session with
  | nil => cases mem
  | cons operation rest ih =>
    obtain ⟨first, later⟩ := List.forall_mem_cons.mp brings
    rcases List.mem_append.mp mem with here | there
    · exact isTimed_of_mem_executionsOf timed here
    · exact ih (isTimed_perform timed first) later there

theorem timeout_of_mem_calls {operations : List (Operation σ)}
    (every : session.catalogue.Every Stage.IsTimed) (timed : session.bench.desk.context.IsTimed p)
    (brings : ∀ operation ∈ operations, operation.IsTimed p) {call : Call}
    (mem : call ∈ Event.calls (events host operations session)) {seconds : Binary64}
    (given : call.timeout = some seconds) : p seconds := by
  rw [calls_events, Event.mem_calls_iff, List.mem_flatMap] at mem
  obtain ⟨execution, executed, mem⟩ := mem
  have registers : ∀ name stage, .register name stage ∈ operations → stage.IsTimed :=
    fun name stage among => brings _ among
  obtain ⟨stage, -⟩ :=
    stage_of_mem_executions (Stage.isTimed_ofStep host) every registers executed
  rw [← Event.mem_calls_iff] at mem
  have heeded := Execution.timeout_of_mem_calls stage mem
  exact (isTimed_of_mem_executions timed brings executed).timeout (heeded.symm.trans given)

end Session

/-! ### Runs -/

section Runs

variable {σ : Type} (host : Host σ)

theorem Desk.timeout_of_mem_calls {catalogue : Catalogue σ} (every : catalogue.Every Stage.IsTimed)
    (name : String) (desk : Desk σ) {call : Call}
    (mem : call ∈ Event.calls (runStage host catalogue name desk).events) :
    call.timeout = desk.context.timeout := by
  rw [events_runStage] at mem
  cases held : catalogue.get? name with
  | none =>
    rw [execution?, held] at mem
    cases mem
  | some stage =>
    rw [execution?, held, Option.map_some, Option.toList_some, List.flatMap_singleton] at mem
    exact Execution.timeout_of_mem_calls (every name stage held) mem

theorem Bench.timeout_of_mem_calls (desk : Desk σ) {call : Call}
    (mem : call ∈ Event.calls (run host (.usual host) ⟨.fresh, desk⟩).events) :
    call.timeout = desk.context.timeout := by
  rw [calls_run_usual, Event.mem_calls_iff, List.mem_flatMap] at mem
  obtain ⟨execution, executed, mem⟩ := mem
  have stages (name : String) :
      Act.Preserves (fun other => other.context.timeout = desk.context.timeout)
        (Desk.runStage host (.usual host) name) :=
    Desk.preserves_of_record (fun context => context.timeout = desk.context.timeout)
      (fun _ _ _ held => held) name
  have same : execution.desk.context.timeout = desk.context.timeout :=
    holds_of_mem_executions host stages rfl executed
  have held := stage_of_mem_executions host executed
  rw [← Event.mem_calls_iff] at mem
  rw [← same]
  exact Execution.timeout_of_mem_calls
    (Catalogue.every_usual (Stage.isTimed_ofStep host) _ _ held) mem

end Runs

end Rollout
