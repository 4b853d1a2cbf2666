import Rollout.Cli.Program
import Rollout.Proofs.Session.Executions

/-!
The marks that a session leaves in the log.

If the stages of a session run no others, the marks form pairs, one pair for each execution and in
their order, and those of a run are of the steps whose phases it entered. Of the pair of a stage that
is interrupted there is the first mark only.
-/

set_option autoImplicit false
set_option relaxedAutoImplicit false

namespace Rollout.Session

variable {σ : Type} (host : Host σ)

private theorem started_of_run {session : Session σ}
    (leaves : session.catalogue.Every Stage.IsLeaf)
    (fresh : session.bench.sequencer.history = []) :
    let ran := perform host .run session
    (Event.marks ran.events).filterMap Mark.started? =
      (ran.state.bench.sequencer.history.filterMap Phase.step?).map Step.name := by
  intro ran
  have marks : Event.marks ran.events =
      (executionsOf host session .run).flatMap (·.marks host) := by
    obtain ⟨last, made, ends⟩ := events_perform host .run session
    rw [made, Event.marks_append, ends.marks_eq, List.append_nil]
    exact Execution.marks_flatMap_events host fun _ mem =>
      leaves _ _ (Bench.stage_of_mem_executions host mem)
  rw [marks, Execution.started_marks]
  simp only [ran, perform_run]
  by_cases complete : session.catalogue.lacking = []
  · exact (Bench.run_of_begun host session.catalogue fresh complete).2.symm
  · have refused : session.bench.sequencer.history ≠ [] ∨ session.catalogue.lacking ≠ [] :=
      .inr complete
    obtain ⟨none, -, same⟩ := Bench.run_of_refused host session.catalogue refused
    simp only [executionsOf, none, same, fresh]
    rfl

/-- The log of a session is marked in pairs: a start, and before the next start one end of the same
stage, which is completed if its action returned and failed if a failure came up. A stage that is
interrupted has a start and no end. There is one pair for each execution of a stage, in the order of
the executions, and there is none for a stage that is not there or a run that is refused. The pairs of
a run are of the steps whose phases it entered. -/
theorem marks_of_session {host : Host σ} (mute : host.IsMute) {catalogue : Catalogue σ}
    (leaves : catalogue.Every Stage.IsLeaf) (desk : Desk σ) {operations : List (Operation σ)}
    (registers : ∀ name stage, .register name stage ∈ operations → stage.IsLeaf) :
    let start := opened catalogue desk
    Event.marks (events host operations start) =
        (executions host operations start).flatMap (·.marks host) ∧
      (∀ message mark, Message.mark? message = some mark →
        mark.opening.toList <+: message.text.toList) ∧
      (∀ execution : Execution σ,
        (∃ outcome, (execution.did host).answer = .ok outcome) ∧
            execution.marks host = [.started execution.name, .completed execution.name] ∨
          (∃ fault, (execution.did host).answer = .error fault ∧ fault.isFailure = true) ∧
            execution.marks host = [.started execution.name, .failed execution.name] ∨
          (∃ interruption, (execution.did host).answer = .error (.interrupted interruption)) ∧
            execution.marks host = [.started execution.name]) ∧
      (∀ session operation, ∃ last, (perform host operation session).events =
        (executionsOf host session operation).flatMap (·.events host) ++ last ∧
          Close.IsLast last ∧ Event.marks last = []) ∧
      (∀ session name, name ∉ session.catalogue.names →
        executionsOf host session (.runStage name) = [] ∧
          (perform host (.runStage name) session).events = []) ∧
      (∀ session, session.bench.sequencer.history ≠ [] ∨ session.catalogue.lacking ≠ [] →
        executionsOf host session .run = [] ∧ (perform host .run session).events = []) ∧
      ∀ before later, operations = before ++ .run :: later →
        let session := after host before start
        let ran := perform host .run session
        session.bench.sequencer.history = [] →
          (Event.marks ran.events).filterMap Mark.started? =
            (ran.state.bench.sequencer.history.filterMap Phase.step?).map Step.name := by
  intro start
  refine ⟨?_, fun message mark => Message.opening_prefix_text, Execution.marks_cases host,
    fun session operation => ?_, fun session name absent => ?_, fun session refused => ?_, ?_⟩
  · rw [marks_events]
    exact Execution.marks_flatMap_events host fun _ mem =>
      (stage_of_mem_executions (Stage.isLeaf_ofStep mute) leaves registers mem).1
  · obtain ⟨last, made, ends⟩ := events_perform host operation session
    exact ⟨last, made, ends, ends.marks_eq⟩
  · have none : executionsOf host session (.runStage name) = [] := by
      simp only [executionsOf, Desk.execution?, Entries.get?_eq_none_iff.mpr absent]
      rfl
    have same : (perform host (.runStage name) session).events =
        (Desk.runStage host session.catalogue name session.bench.desk).events :=
      Act.events_bind_pure ..
    refine ⟨none, ?_⟩
    rw [same, Desk.events_runStage]
    exact congrArg (List.flatMap _) none
  · obtain ⟨none, idle, -⟩ := Bench.run_of_refused host session.catalogue refused
    refine ⟨none, ?_⟩
    rw [perform_run]
    exact idle
  · rintro before later rfl session ran fresh
    have earlier : ∀ name stage, .register name stage ∈ before → stage.IsLeaf :=
      fun name stage mem => registers name stage (List.mem_append_left _ mem)
    exact started_of_run host (every_after host leaves earlier) fresh

/-- A session in which the second stage of a run fails and a stage of its own is interrupted: there are
no marks of the run that lacks a stage, of the stage that is not there and of the run of the spent
sequencer. -/
theorem marks_of_session_halted :
    let host : Host Unit :=
      ⟨fun call world => ⟨.ok ⟨call.argv, 0, none, false⟩, [], world⟩,
        fun world => (.zero false, world)⟩
    let returns : Stage Unit := ⟨"", "", fun _ => pure none⟩
    let raises : Stage Unit :=
      ⟨"", "", fun _ => Act.fail (.step (.plain "deploy-super" (.told "no") 7))⟩
    let exits : Stage Unit := ⟨"", "", fun _ => Act.fail (.interrupted (.exit 1))⟩
    let catalogue : Catalogue Unit :=
      [("deploy-super", raises), ("deploy-rewards", returns), ("extra", exits)]
    let desk : Desk Unit := ⟨.start ⟨.top, none, none, "make", "INFO"⟩ (.usual "make") default, ()⟩
    let operations : List (Operation Unit) :=
      [.run, .register "test-program" returns, .run, .runStage "absent", .runStage "extra",
        .runStage "test-program", .run]
    let start := opened catalogue desk
    Event.marks (events host operations start) =
        [.started "deploy-rewards", .completed "deploy-rewards",
          .started "deploy-super", .failed "deploy-super", .started "extra",
          .started "test-program", .completed "test-program"] ∧
      ((executions host operations start).map (·.name) =
        ["deploy-rewards", "deploy-super", "extra", "test-program"]) := by
  intro host returns raises exits catalogue desk operations start
  have mute : host.IsMute := fun _ _ _ mem => nomatch mem
  have returning : returns.IsLeaf := fun _ => Act.unmarked_pure none
  have raising : raises.IsLeaf := fun _ => Act.unmarked_fail _
  have exiting : exits.IsLeaf := fun _ => Act.unmarked_fail _
  have leaves : catalogue.Every Stage.IsLeaf :=
    ((Catalogue.every_nil.append raising).append returning).append exiting
  have registers : ∀ name stage, .register name stage ∈ operations → stage.IsLeaf := by
    intro name stage mem
    simp only [operations, List.mem_cons, reduceCtorEq, false_or, List.not_mem_nil, or_false,
      Operation.register.injEq] at mem
    exact mem.2 ▸ returning
  have pairs : (executions host operations start).flatMap (·.marks host) =
      [.started "deploy-rewards", .completed "deploy-rewards",
        .started "deploy-super", .failed "deploy-super", .started "extra",
        .started "test-program", .completed "test-program"] := by
    decide +kernel
  exact ⟨(marks_of_session mute leaves desk registers).1.trans pairs, by decide +kernel⟩

/-- A stage that exits is executed, and its start has no end. Where the loggers let errors pass only, a
stage that fails is shown to have an end without a start. -/
theorem marks_unpaired :
    let host : Host Unit :=
      ⟨fun call world => ⟨.ok ⟨call.argv, 0, none, false⟩, [], world⟩,
        fun world => (.zero false, world)⟩
    let exits : Stage Unit := ⟨"", "sequencer.deploy", fun _ => Act.fail (.interrupted (.exit 1))⟩
    let raises : Stage Unit :=
      ⟨"", "sequencer.deploy", fun _ => Act.fail (.step (.plain "extra" (.told "no") 7))⟩
    let desk : Desk Unit := ⟨.start ⟨.top, none, none, "make", "INFO"⟩ (.usual "make") default, ()⟩
    let operations : List (Operation Unit) := [.runStage "extra"]
    let wording : Log.Wording := ⟨"<time>", fun _ => "", fun _ => ""⟩
    let shown (console : Log.Console) : List String :=
      (Cli.Transcript.showAll wording ⟨console, []⟩
        (events host operations (opened [("extra", raises)] desk))).2.2.pieces.map (·.2)
    ((executions host operations (opened [("extra", exits)] desk)).map (·.name) = ["extra"] ∧
      Event.marks (events host operations (opened [("extra", exits)] desk)) = [.started "extra"]) ∧
      (Log.Console.start.basic "ERROR").toOption.map shown =
        some ["<time> - sequencer.deploy - ERROR - Stage 'extra' failed: Step 'extra' failed: no\n"] := by
  intro host exits raises desk operations wording shown
  exact ⟨⟨by decide +kernel, by decide +kernel⟩, by decide +kernel⟩

end Rollout.Session
