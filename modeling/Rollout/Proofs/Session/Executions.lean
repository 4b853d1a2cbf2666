import Rollout.Proofs.Session.Refusals
import Rollout.Proofs.Stage.Marks
import Rollout.Proofs.Stage.Recording

/-!
The executions of a session.

Everything that a session does is done by executions of stages, one after the other; besides their
events there are only those that a run makes at its end. The stages that are executed are those that
the session has or is given, and all executions are in one workspace.
-/

set_option autoImplicit false
set_option relaxedAutoImplicit false

namespace Rollout

namespace Catalogue

variable {σ : Type}

def Every (p : Stage σ → Prop) (catalogue : Catalogue σ) : Prop :=
  ∀ name stage, catalogue.get? name = some stage → p stage

variable {p : Stage σ → Prop}

theorem every_nil : Every p ([] : Catalogue σ) := by
  intro name stage held
  cases held

theorem Every.append {catalogue : Catalogue σ} (every : catalogue.Every p) {name : String}
    {stage : Stage σ} (has : p stage) : Every p (catalogue ++ [(name, stage)] : Catalogue σ) := by
  intro other found held
  rw [Entries.get?_append, Option.or_eq_some_iff] at held
  rcases held with old | ⟨-, new⟩
  · exact every other found old
  · by_cases same : name = other
    · simp only [Entries.get?, same, if_true, Option.some.injEq] at new
      exact new ▸ has
    · simp [Entries.get?, same] at new

theorem every_usual {host : Host σ} (steps : ∀ step, p (Stage.ofStep host step)) :
    (usual host).Every p := by
  intro name stage held
  obtain ⟨step, -, rfl⟩ := step_of_get?_usual held
  exact steps step

end Catalogue

namespace Close

/-- Nothing, or what a run tells at its end. -/
def IsLast (last : List Event) : Prop :=
  last = [] ∨ ∃ context fault?, last = (Close.of context fault?).events

theorem IsLast.marks_eq {last : List Event} (ends : IsLast last) : Event.marks last = [] := by
  rcases ends with rfl | ⟨context, _ | fault, rfl⟩
  · rfl
  · rfl
  · cases fault <;> rfl

theorem IsLast.calls_eq {last : List Event} (ends : IsLast last) : Event.calls last = [] := by
  rcases ends with rfl | ⟨context, _ | fault, rfl⟩
  · rfl
  · rfl
  · cases fault <;> rfl

end Close

section Runs

variable {σ : Type} (host : Host σ) (catalogue : Catalogue σ)

/-- The executions for a row of steps from a desk, up to the first whose stage does not return. -/
def executions : List Step → Desk σ → List (Execution σ)
  | [], _ => []
  | step :: rest, desk =>
    match Desk.execution? catalogue step.name desk with
    | none => []
    | some execution =>
      execution ::
        match (execution.did host).answer with
        | .ok _ => executions rest (Desk.runStage host catalogue step.name desk).state
        | .error _ => []

/-- The executions of a run: none if it is refused. -/
def Bench.executions (bench : Bench σ) : List (Execution σ) :=
  if bench.sequencer.history = [] ∧ catalogue.lacking = [] then
    Rollout.executions host catalogue Step.all bench.desk
  else []

variable {catalogue}

private theorem executions_cons {step : Step} {stage : Stage σ}
    (held : catalogue.get? step.name = some stage) (rest : List Step) (desk : Desk σ) :
    let ran := Desk.runStage host catalogue step.name desk
    executions host catalogue (step :: rest) desk =
      ⟨step.name, stage, desk⟩ ::
        match ran.answer with
        | .ok _ => executions host catalogue rest ran.state
        | .error _ => [] := by
  intro ran
  have found : catalogue.find step.name = .ok stage := by rw [Catalogue.find, held]
  have answer : ran.answer = (Execution.did host ⟨step.name, stage, desk⟩).answer :=
    (Desk.answer_of_runStage host catalogue found desk).1
  simp only [executions, Desk.execution?, held, Option.map_some, answer]
  rfl

private theorem executions_eq {steps : List Step}
    (complete : ∀ step ∈ steps, step.name ∈ catalogue.names) (desk : Desk σ) :
    eventsOf (attempts host catalogue steps desk) =
        (executions host catalogue steps desk).flatMap (·.events host) ∧
      (attempts host catalogue steps desk).map (·.step.name) =
        (executions host catalogue steps desk).map (·.name) := by
  induction steps generalizing desk with
  | nil => exact ⟨rfl, rfl⟩
  | cons step rest ih =>
    obtain ⟨here, later⟩ := List.forall_mem_cons.mp complete
    cases held : catalogue.get? step.name with
    | none => exact absurd here (Entries.get?_eq_none_iff.mp held)
    | some stage =>
      have events : (Desk.runStage host catalogue step.name desk).events =
          (⟨step.name, stage, desk⟩ : Execution σ).events host := by
        rw [Desk.events_runStage, Desk.execution?, held]
        exact List.append_nil _
      rw [executions_cons host held]
      cases answer : (Desk.runStage host catalogue step.name desk).answer with
      | ok outcome =>
        obtain ⟨same, names⟩ := ih later (Desk.runStage host catalogue step.name desk).state
        rw [attempts_of_ok host catalogue answer]
        simp only [eventsOf, List.flatMap_cons, events] at same ⊢
        exact ⟨congrArg _ same, congrArg (step.name :: ·) names⟩
      | error fault =>
        rw [attempts_of_error host catalogue answer]
        simp only [eventsOf, List.flatMap_cons, events]
        exact ⟨rfl, rfl⟩

theorem Desk.workspace_runStage (name : String) (desk : Desk σ) :
    (Desk.runStage host catalogue name desk).state.context.workspace = desk.context.workspace := by
  rw [Desk.context_of_runStage]
  cases (Desk.runStage host catalogue name desk).answer.toOption.join <;> rfl

private theorem held_of_mem_executions {holds : Desk σ → Prop}
    (stages : ∀ name, Act.Preserves holds (Desk.runStage host catalogue name)) {steps : List Step}
    {desk : Desk σ} (held : holds desk) {execution : Execution σ}
    (mem : execution ∈ executions host catalogue steps desk) :
    catalogue.get? execution.name = some execution.stage ∧ holds execution.desk := by
  induction steps generalizing desk with
  | nil => cases mem
  | cons step rest ih =>
    cases there : catalogue.get? step.name with
    | none =>
      simp only [executions, Desk.execution?, there, Option.map_none] at mem
      cases mem
    | some stage =>
      rw [executions_cons host there] at mem
      rcases List.mem_cons.mp mem with rfl | later
      · exact ⟨there, held⟩
      · split at later
        · exact ih (stages step.name desk held) later
        · cases later

namespace Bench

variable {bench : Bench σ} {execution : Execution σ}

theorem holds_of_mem_executions {holds : Desk σ → Prop}
    (stages : ∀ name, Act.Preserves holds (Desk.runStage host catalogue name))
    (held : holds bench.desk) (mem : execution ∈ bench.executions host catalogue) :
    holds execution.desk := by
  unfold Bench.executions at mem
  split at mem
  · exact (held_of_mem_executions host stages held mem).2
  · cases mem

theorem stage_of_mem_executions (mem : execution ∈ bench.executions host catalogue) :
    catalogue.get? execution.name = some execution.stage := by
  have always (name : String) :
      Act.Preserves (fun _ => True) (Desk.runStage host catalogue name) := fun _ _ => trivial
  unfold Bench.executions at mem
  split at mem
  · exact (held_of_mem_executions host always trivial mem).1
  · cases mem

theorem workspace_of_mem_executions (mem : execution ∈ bench.executions host catalogue) :
    execution.desk.context.workspace = bench.desk.context.workspace := by
  have stages (name : String) :
      Act.Preserves (fun desk => desk.context.workspace = bench.desk.context.workspace)
        (Desk.runStage host catalogue name) :=
    fun desk same => (Desk.workspace_runStage host name desk).trans same
  exact holds_of_mem_executions host stages rfl mem

end Bench

end Runs

namespace Bench

variable {σ : Type} (host : Host σ) (catalogue : Catalogue σ) {bench : Bench σ}

theorem run_of_refused (refused : bench.sequencer.history ≠ [] ∨ catalogue.lacking ≠ []) :
    bench.executions host catalogue = [] ∧ (run host catalogue bench).events = [] ∧
      (run host catalogue bench).state = bench := by
  have none : bench.executions host catalogue = [] :=
    if_neg fun ⟨fresh, complete⟩ => refused.elim (· fresh) (· complete)
  refine ⟨none, ?_⟩
  by_cases fresh : bench.sequencer.history = []
  · rw [run_of_lacking host fresh (refused.resolve_left (· fresh))]
    exact ⟨rfl, rfl⟩
  · rw [run_of_spent host catalogue fresh]
    exact ⟨rfl, rfl⟩

theorem run_of_begun (fresh : bench.sequencer.history = []) (complete : catalogue.lacking = []) :
    let ran := run host catalogue bench
    let executed := bench.executions host catalogue
    (∃ last, ran.events = executed.flatMap (·.events host) ++ last ∧ Close.IsLast last) ∧
      (ran.state.sequencer.history.filterMap Phase.step?).map Step.name =
        executed.map (·.name) := by
  intro ran executed
  have found : catalogue.missing (Step.all.map Step.name) = [] := by
    rw [catalogue.missing_steps, complete, List.map_nil]
  have named : ∀ step ∈ Step.all, step.name ∈ catalogue.names := fun step _ =>
    Catalogue.lacking_eq_nil_iff.mp complete step
  have all : executed = Rollout.executions host catalogue Step.all bench.desk :=
    if_pos ⟨fresh, complete⟩
  obtain ⟨events, names⟩ := executions_eq host named bench.desk
  rw [← all] at events names
  simp only [ran, run_eq_told host catalogue fresh found, told]
  refine ⟨⟨_, congrArg (· ++ _) events, .inr ⟨_, _, rfl⟩⟩, ?_⟩
  rw [Sequencer.history_enterAll, fresh, List.nil_append, filterMap_step?_phasesOf, List.map_map,
    ← names]
  rfl

end Bench

namespace Session

variable {σ : Type} (host : Host σ)

/-- The executions of an operation. -/
def executionsOf (session : Session σ) : Operation σ → List (Execution σ)
  | .run => session.bench.executions host session.catalogue
  | .runFresh => Bench.executions host (.usual host) ⟨.fresh, session.bench.desk⟩
  | .runStage name => (Desk.execution? session.catalogue name session.bench.desk).toList
  | _ => []

/-- What is gathered from a row of operations, each done after those before it. -/
def gather {α : Type} (part : Session σ → Operation σ → List α) :
    List (Operation σ) → Session σ → List α
  | [], _ => []
  | operation :: rest, session =>
    part session operation ++ gather part rest (perform host operation session).state

def events : List (Operation σ) → Session σ → List Event :=
  gather host fun session operation => (perform host operation session).events

def executions : List (Operation σ) → Session σ → List (Execution σ) :=
  gather host (executionsOf host)

private theorem events_run (catalogue : Catalogue σ) (bench : Bench σ) :
    ∃ last, (Bench.run host catalogue bench).events =
      (bench.executions host catalogue).flatMap (·.events host) ++ last ∧ Close.IsLast last := by
  by_cases begun : bench.sequencer.history = [] ∧ catalogue.lacking = []
  · exact (Bench.run_of_begun host catalogue begun.1 begun.2).1
  · obtain ⟨none, idle, -⟩ := Bench.run_of_refused host catalogue (not_and_or.mp begun)
    exact ⟨[], by rw [none, idle]; rfl, .inl rfl⟩

theorem events_perform (operation : Operation σ) (session : Session σ) :
    ∃ last, (perform host operation session).events =
      (executionsOf host session operation).flatMap (·.events host) ++ last ∧
        Close.IsLast last := by
  cases operation with
  | run =>
    rw [perform_run]
    exact events_run host session.catalogue session.bench
  | runFresh =>
    have same : (perform host .runFresh session).events =
        (Bench.run host (.usual host) ⟨.fresh, session.bench.desk⟩).events :=
      Act.events_bind_pure ..
    rw [same]
    exact events_run host (.usual host) _
  | runStage name =>
    have same : (perform host (.runStage name) session).events =
        (Desk.runStage host session.catalogue name session.bench.desk).events :=
      Act.events_bind_pure ..
    rw [same, Desk.events_runStage]
    exact ⟨[], (List.append_nil _).symm, .inl rfl⟩
  | register name stage =>
    rw [perform_register]
    split <;> exact ⟨[], rfl, .inl rfl⟩
  | resolve names => exact ⟨[], Act.events_bind_pure .., .inl rfl⟩
  | find name => exact ⟨[], Act.events_bind_pure .., .inl rfl⟩
  | _ => exact ⟨[], rfl, .inl rfl⟩

private theorem found_events {α : Type} (found : List Event → List α)
    (append : ∀ front back, found (front ++ back) = found front ++ found back)
    (last : ∀ events, Close.IsLast events → found events = []) (operations : List (Operation σ))
    (session : Session σ) :
    found (events host operations session) =
      found ((executions host operations session).flatMap (·.events host)) := by
  induction operations generalizing session with
  | nil => rfl
  | cons operation rest ih =>
    obtain ⟨behind, made, ends⟩ := events_perform host operation session
    simp only [events, executions, gather, List.flatMap_append] at ih ⊢
    rw [append, append, ih, made, append, last behind ends, List.append_nil]

theorem marks_events (operations : List (Operation σ)) (session : Session σ) :
    Event.marks (events host operations session) =
      Event.marks ((executions host operations session).flatMap (·.events host)) :=
  found_events host Event.marks Event.marks_append (fun _ => Close.IsLast.marks_eq) operations
    session

theorem calls_events (operations : List (Operation σ)) (session : Session σ) :
    Event.calls (events host operations session) =
      Event.calls ((executions host operations session).flatMap (·.events host)) :=
  found_events host Event.calls Event.calls_append (fun _ => Close.IsLast.calls_eq) operations
    session

theorem workspace_perform (operation : Operation σ) (session : Session σ) :
    (perform host operation session).state.bench.desk.context.workspace =
      session.bench.desk.context.workspace := by
  have kept (catalogue : Catalogue σ) (bench : Bench σ) :
      (Bench.run host catalogue bench).state.desk.context.workspace =
        bench.desk.context.workspace :=
    Bench.preserves_run host catalogue
      (fun name desk held => (Desk.workspace_runStage host name desk).trans held) bench rfl
  rw [state_perform]
  cases operation with
  | run => exact kept session.catalogue session.bench
  | runFresh => exact kept (.usual host) ⟨.fresh, session.bench.desk⟩
  | runStage name => exact Desk.workspace_runStage host name session.bench.desk
  | register name stage =>
    simp only
    split <;> rfl
  | _ => rfl

section Every

variable {p : Stage σ → Prop}

private theorem every_perform {session : Session σ} (every : session.catalogue.Every p)
    {operation : Operation σ}
    (registers : ∀ name stage, operation = .register name stage → p stage) :
    (perform host operation session).state.catalogue.Every p := by
  cases operation with
  | register name stage =>
    rw [perform_register]
    split
    · exact every
    · exact every.append (registers name stage rfl)
  | _ =>
    rw [state_perform]
    exact every

theorem every_after {session : Session σ} (every : session.catalogue.Every p)
    {operations : List (Operation σ)}
    (registers : ∀ name stage, .register name stage ∈ operations → p stage) :
    (after host operations session).catalogue.Every p := by
  induction operations generalizing session with
  | nil => exact every
  | cons operation rest ih =>
    exact ih (every_perform host every fun name stage same =>
      registers name stage (same ▸ List.mem_cons_self)) fun name stage mem =>
        registers name stage (List.mem_cons_of_mem _ mem)

variable {host}

private theorem stage_of_mem_executionsOf (steps : ∀ step, p (Stage.ofStep host step))
    {session : Session σ} (every : session.catalogue.Every p) {operation : Operation σ}
    {execution : Execution σ} (mem : execution ∈ executionsOf host session operation) :
    p execution.stage ∧
      execution.desk.context.workspace = session.bench.desk.context.workspace := by
  cases operation with
  | run =>
    exact ⟨every _ _ (Bench.stage_of_mem_executions host mem),
      Bench.workspace_of_mem_executions host mem⟩
  | runFresh =>
    have workspace := Bench.workspace_of_mem_executions host mem
    exact ⟨Catalogue.every_usual steps _ _ (Bench.stage_of_mem_executions host mem), workspace⟩
  | runStage name =>
    simp only [executionsOf, Desk.execution?, Option.toList_map, List.mem_map,
      Option.mem_toList] at mem
    obtain ⟨stage, held, rfl⟩ := mem
    exact ⟨every name stage held, rfl⟩
  | _ => cases mem

theorem stage_of_mem_executions (steps : ∀ step, p (Stage.ofStep host step))
    {operations : List (Operation σ)} {session : Session σ} (every : session.catalogue.Every p)
    (registers : ∀ name stage, .register name stage ∈ operations → p stage)
    {execution : Execution σ} (mem : execution ∈ executions host operations session) :
    p execution.stage ∧
      execution.desk.context.workspace = session.bench.desk.context.workspace := by
  induction operations generalizing session with
  | nil => cases mem
  | cons operation rest ih =>
    rcases List.mem_append.mp mem with here | later
    · exact stage_of_mem_executionsOf steps every here
    · rw [← workspace_perform host operation session]
      exact ih (every_perform host every fun name stage same =>
        registers name stage (same ▸ List.mem_cons_self)) (fun name stage mem =>
          registers name stage (List.mem_cons_of_mem _ mem)) later

end Every

end Session

end Rollout
