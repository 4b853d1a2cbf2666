import Mathlib.Data.List.Induction
import Rollout.Proofs.Sequence.Attempts
import Rollout.Session

/-!
The history of a sequencer through a session.

Whatever is done in a session, the sequencer has either entered no phase or has entered the phases
of one run, and these tell how the stages of that run went. After that it runs no more.
-/

set_option autoImplicit false
set_option relaxedAutoImplicit false

namespace Rollout

/-- The rows of phases that a sequencer can have entered. -/
inductive IsHistory : List Phase → Prop
  | unused : IsHistory []
  | pending {steps : List Step} : steps ≠ [] → steps <+: Step.all → IsHistory (steps.map .pending)
  | failed {steps : List Step} : steps ≠ [] → steps <+: Step.all →
      IsHistory (steps.map .pending ++ [.failed])
  | done : IsHistory (Step.all.map .pending ++ [.done])

/-- A history tells how attempts at some steps went: which stages were run, whether the last of them
raised a step fault or another fault, and whether all of them returned. -/
structure Tells {σ : Type} (steps : List Step) (history : List Phase) (tried : List (Attempt σ)) :
    Prop where
  pending : history.filterMap Phase.step? = tried.map (·.step)
  failed : .failed ∈ history ↔ ∃ attempt fault,
    tried.getLast? = some attempt ∧ attempt.ran.answer = .error (.step fault)
  done : .done ∈ history ↔
    tried.map (·.step) = steps ∧ ∀ attempt ∈ tried, ∃ outcome, attempt.ran.answer = .ok outcome
  broken : ∀ attempt fault, tried.getLast? = some attempt → attempt.ran.answer = .error fault →
    (∀ stepFault, fault ≠ .step stepFault) → history.getLast? = some (.pending attempt.step)

section Histories

variable {σ : Type}

private theorem failed_mem_phasesOf_iff (tried : List (Attempt σ)) :
    .failed ∈ phasesOf tried ↔ ∃ fault, faultOf tried = some (.step fault) := by
  unfold phasesOf
  rcases faultOf tried with _ | fault
  · simp [Phase.closing, Attempt.phase]
  · cases fault <;> simp [Phase.closing, Attempt.phase]

private theorem done_mem_phasesOf_iff (tried : List (Attempt σ)) :
    .done ∈ phasesOf tried ↔ faultOf tried = none := by
  unfold phasesOf
  rcases faultOf tried with _ | fault
  · simp [Phase.closing]
  · cases fault <;> simp [Phase.closing, Attempt.phase]

private theorem closing_of_broken {fault : Fault} (broken : ∀ stepFault, fault ≠ .step stepFault) :
    Phase.closing (some fault) = [] := by
  cases fault with
  | step stepFault => exact absurd rfl (broken stepFault)
  | _ => rfl

theorem filterMap_step?_phasesOf (tried : List (Attempt σ)) :
    (phasesOf tried).filterMap Phase.step? = tried.map (·.step) := by
  have entered : phasesOf tried =
      (tried.map (·.step)).map .pending ++ Phase.closing (faultOf tried) := by
    rw [List.map_map]
    rfl
  rw [entered, Phase.filterMap_step?_entered]

variable (host : Host σ) (catalogue : Catalogue σ)

private theorem faultOf_attempts_eq_some_iff (steps : List Step) (desk : Desk σ) (fault : Fault) :
    faultOf (attempts host catalogue steps desk) = some fault ↔
      ∃ attempt, (attempts host catalogue steps desk).getLast? = some attempt ∧
        attempt.ran.answer = .error fault := by
  rw [faultOf_attempts, Option.bind_eq_some_iff]
  simp only [Attempt.fault?_eq_some_iff]

theorem tells_phasesOf (steps : List Step) (desk : Desk σ) :
    Tells steps (phasesOf (attempts host catalogue steps desk))
      (attempts host catalogue steps desk) where
  pending := filterMap_step?_phasesOf _
  failed := by
    rw [failed_mem_phasesOf_iff]
    simp only [faultOf_attempts_eq_some_iff]
    exact exists_comm
  done := by
    rw [done_mem_phasesOf_iff]
    constructor
    · intro unharmed
      refine ⟨steps_attempts_of_faultOf_eq_none host catalogue unharmed, ?_⟩
      intro attempt member
      exact Attempt.fault?_eq_none_iff.mp (List.findSome?_eq_none_iff.mp unharmed attempt member)
    · intro ⟨_, returned⟩
      refine List.findSome?_eq_none_iff.mpr fun attempt member => ?_
      exact Attempt.fault?_eq_none_iff.mpr (returned attempt member)
  broken := by
    intro attempt fault last answer broken
    have raised : faultOf (attempts host catalogue steps desk) = some fault :=
      (faultOf_attempts_eq_some_iff host catalogue steps desk fault).mpr ⟨attempt, last, answer⟩
    rw [phasesOf, raised, closing_of_broken broken, List.append_nil, List.getLast?_map, last]
    rfl

theorem isHistory_phasesOf (desk : Desk σ) :
    IsHistory (phasesOf (attempts host catalogue Step.all desk)) ∧
      phasesOf (attempts host catalogue Step.all desk) ≠ [] := by
  have nonempty : (attempts host catalogue Step.all desk).map (·.step) ≠ [] := by
    simp [Step.all, attempts]
  have order := steps_attempts_prefix host catalogue Step.all desk
  have phases : phasesOf (attempts host catalogue Step.all desk) =
      ((attempts host catalogue Step.all desk).map (·.step)).map .pending ++
        Phase.closing (faultOf (attempts host catalogue Step.all desk)) := by
    rw [List.map_map]
    rfl
  refine ⟨?_, by simpa [phases] using fun empty => absurd empty (by simpa using nonempty)⟩
  rw [phases]
  cases raised : faultOf (attempts host catalogue Step.all desk) with
  | none =>
    rw [steps_attempts_of_faultOf_eq_none host catalogue raised]
    exact .done
  | some fault =>
    cases fault with
    | step stepFault => exact .failed nonempty order
    | _ => simpa only [Phase.closing, List.append_nil] using IsHistory.pending nonempty order

end Histories

namespace Session

variable {σ : Type} (host : Host σ)

/-- The session after a row of operations. An operation that fails does not end the session, and
what it changed before it failed stays changed. -/
def after (operations : List (Operation σ)) (session : Session σ) : Session σ :=
  operations.foldl (fun session operation => (perform host operation session).state) session

theorem after_append (front back : List (Operation σ)) (session : Session σ) :
    after host (front ++ back) session = after host back (after host front session) :=
  List.foldl_append

theorem after_concat (operations : List (Operation σ)) (operation : Operation σ)
    (session : Session σ) :
    after host (operations ++ [operation]) session =
      (perform host operation (after host operations session)).state :=
  after_append ..

/-- A session whose sequencer has not run. -/
def opened (catalogue : Catalogue σ) (desk : Desk σ) : Session σ := ⟨catalogue, ⟨.fresh, desk⟩⟩

theorem perform_run (session : Session σ) :
    perform host .run session =
      let ran := Bench.run host session.catalogue session.bench
      ⟨ran.answer.map .report, ran.events, { session with bench := ran.state }⟩ := by
  simp only [perform, Act.bind_apply, Act.get_apply, atBench, Act.focus_apply]
  cases (Bench.run host session.catalogue session.bench).answer with
  | ok report => simp [Act.pure_apply, Except.map]
  | error fault => simp [Except.map]

theorem state_perform (operation : Operation σ) (session : Session σ) :
    (perform host operation session).state =
      let ⟨sequencer, desk⟩ := session.bench
      let edited (context : Context) : Session σ :=
        { session with bench := ⟨sequencer, { desk with context := context }⟩ }
      match operation with
      | .run => { session with bench := (Bench.run host session.catalogue session.bench).state }
      | .runFresh => { session with bench := ⟨sequencer, (Desk.runSequence host desk).state⟩ }
      | .renewSequencer => { session with bench := ⟨.fresh, desk⟩ }
      | .runStage name =>
        { session with bench := ⟨sequencer,
            (Desk.runStage host session.catalogue name desk).state⟩ }
      | .register name stage =>
        match session.catalogue.register name stage with
        | .ok catalogue => { session with catalogue := catalogue }
        | .error _ => session
      | .setOutcome name outcome => edited (desk.context.record name outcome)
      | .dropOutcome name =>
        edited { desk.context with outcomes := desk.context.outcomes.erase name }
      | .setTimeout timeout =>
        edited { desk.context with settings := { desk.context.settings with timeout := timeout } }
      | .setPlan plan => edited { desk.context with plan := plan }
      | .resolve _ | .find _ | .contains _ | .names | .missing _ | .describe => session := by
  cases operation with
  | run | runFresh | runStage name | resolve names | find name => exact Act.state_bind_pure ..
  | register name stage =>
    simp only [perform, Act.bind_apply, Act.get_apply, Act.ofExcept_apply]
    cases session.catalogue.register name stage <;> rfl
  | _ => rfl

theorem sequencer_perform {operation : Operation σ} (other : operation ≠ .run)
    (same : operation ≠ .renewSequencer) (session : Session σ) :
    (perform host operation session).state.bench.sequencer = session.bench.sequencer := by
  rw [state_perform]
  cases operation with
  | run => exact absurd rfl other
  | renewSequencer => exact absurd rfl same
  | register name stage =>
    simp only
    split <;> rfl
  | _ => rfl

/-- A sequencer has entered its phases in a run that began in a session: it was fresh, no stage was
missing, and the phases are those of the attempts made. -/
structure Began (started : Session σ) (sequencer : Sequencer) : Prop where
  fresh : started.bench.sequencer = .fresh
  complete : started.catalogue.missing (Step.all.map Step.name) = []
  entered : sequencer = Sequencer.fresh.enterAll
    (phasesOf (attempts host started.catalogue Step.all started.bench.desk))

theorem began_of_complete {session : Session σ} (fresh : session.bench.sequencer = .fresh)
    (complete : session.catalogue.missing (Step.all.map Step.name) = []) :
    Began host session (perform host .run session).state.bench.sequencer := by
  have unused : session.bench.sequencer.history = [] := congrArg Sequencer.history fresh
  rw [perform_run, Bench.run_eq_told host session.catalogue unused complete]
  refine ⟨fresh, complete, ?_⟩
  rw [← fresh]
  rfl

private theorem sequencer_perform_run {session : Session σ}
    (fresh : session.bench.sequencer = .fresh) :
    (perform host .run session).state.bench.sequencer = .fresh ∨
      Began host session (perform host .run session).state.bench.sequencer := by
  cases missing : session.catalogue.missing (Step.all.map Step.name) with
  | nil => exact .inr (began_of_complete host fresh missing)
  | cons name names =>
    have unused : session.bench.sequencer.history = [] := congrArg Sequencer.history fresh
    rw [perform_run, Bench.run_of_missing host session.catalogue unused missing]
    exact .inl fresh

private theorem Began.history_eq {started : Session σ} {sequencer : Sequencer}
    (began : Began host started sequencer) :
    sequencer.history = phasesOf (attempts host started.catalogue Step.all started.bench.desk) := by
  rw [began.entered, Sequencer.history_enterAll]
  rfl

theorem Began.history_ne_nil {started : Session σ} {sequencer : Sequencer}
    (began : Began host started sequencer) : sequencer.history ≠ [] := by
  rw [began.history_eq host]
  exact (isHistory_phasesOf host started.catalogue started.bench.desk).2

private theorem Began.phase_eq {started : Session σ} {sequencer : Sequencer}
    (began : Began host started sequencer) :
    sequencer.phase = sequencer.history.getLast?.getD (.pending .rewards) := by
  rw [began.history_eq host, began.entered]
  exact Sequencer.phase_enterAll ..

private theorem sequencer_after (start : Session σ) (fresh : start.bench.sequencer = .fresh)
    (operations : List (Operation σ)) :
    (after host operations start).bench.sequencer = .fresh ∨
      ∃ before later, operations = before ++ .run :: later ∧
        Began host (after host before start) (after host operations start).bench.sequencer := by
  induction operations using List.reverseRecOn with
  | nil => exact .inl fresh
  | append_singleton operations operation ih =>
    rw [after_concat]
    by_cases run : operation = .run
    · subst run
      rcases ih with idle | ⟨before, later, split, began⟩
      · rcases sequencer_perform_run host idle with idle | began
        · exact .inl idle
        · exact .inr ⟨operations, [], rfl, began⟩
      · refine .inr ⟨before, later ++ [.run], by simp [split], ?_⟩
        rw [perform_run, Bench.run_of_spent host _ (began.history_ne_nil host)]
        exact began
    · by_cases renew : operation = .renewSequencer
      · subst renew
        exact .inl rfl
      · rw [sequencer_perform host run renew]
        refine ih.imp_right fun ⟨before, later, split, began⟩ => ?_
        exact ⟨before, later ++ [operation], by simp [split], began⟩

private theorem sequencer_after_of_spent {session : Session σ}
    (spent : session.bench.sequencer.history ≠ []) {operations : List (Operation σ)}
    (same : .renewSequencer ∉ operations) :
    (after host operations session).bench.sequencer = session.bench.sequencer := by
  induction operations generalizing session with
  | nil => rfl
  | cons operation rest ih =>
    obtain ⟨kept, rest_same⟩ : operation ≠ .renewSequencer ∧ .renewSequencer ∉ rest := by
      simpa [eq_comm] using same
    have step : (perform host operation session).state.bench.sequencer =
        session.bench.sequencer := by
      by_cases run : operation = .run
      · rw [run, perform_run, Bench.run_of_spent host _ spent]
      · exact sequencer_perform host run kept session
    exact (ih (step.symm ▸ spent) rest_same).trans step

/-- Whatever is done in a session, the sequencer's history is that of no run or of one, its phase is
the last of the history, and the history tells how the stages of the run went. After that run every
other run is refused and changes nothing. -/
theorem history_of_session (catalogue : Catalogue σ) (desk : Desk σ)
    (operations : List (Operation σ)) :
    let session := after host operations (opened catalogue desk)
    let sequencer := session.bench.sequencer
    IsHistory sequencer.history ∧
      sequencer.phase = sequencer.history.getLast?.getD (.pending .rewards) ∧
      (sequencer.history ≠ [] →
        (∃ before later, operations = before ++ .run :: later ∧
          let started := after host before (opened catalogue desk)
          started.bench.sequencer = .fresh ∧
            started.catalogue.missing (Step.all.map Step.name) = [] ∧
            Tells Step.all sequencer.history
              (attempts host started.catalogue Step.all started.bench.desk)) ∧
        ∀ later, .renewSequencer ∉ later →
          let ended := after host later session
          ended.bench.sequencer = sequencer ∧
            perform host .run ended = ⟨.error .spent, [], ended⟩) := by
  intro session sequencer
  have refused : sequencer.history ≠ [] → ∀ later, .renewSequencer ∉ later →
      (after host later session).bench.sequencer = sequencer ∧
        perform host .run (after host later session) =
          ⟨.error .spent, [], after host later session⟩ := by
    intro spent later same
    have kept := sequencer_after_of_spent host spent same
    refine ⟨kept, ?_⟩
    rw [perform_run, Bench.run_of_spent host _ (kept.symm ▸ spent)]
    rfl
  rcases sequencer_after host (opened catalogue desk) rfl operations with
    idle | ⟨before, later, split, began⟩
  · have unused : sequencer = .fresh := idle
    rw [unused]
    exact ⟨.unused, rfl, fun used => absurd rfl used⟩
  · have entered : sequencer.history = _ := began.history_eq host
    refine ⟨?_, began.phase_eq host, fun spent => ⟨?_, refused spent⟩⟩
    · rw [entered]
      exact (isHistory_phasesOf host _ _).1
    · refine ⟨before, later, split, began.fresh, began.complete, ?_⟩
      rw [entered]
      exact tells_phasesOf host _ Step.all _

/-- A session in which the second stage raises a step fault: the history says so, and a stage run by
hand does not revive the sequencer. -/
theorem history_of_session_halted :
    let host : Host Unit :=
      ⟨fun call world => ⟨.ok ⟨call.argv, 0, none, false⟩, [], world⟩,
        fun world => (.zero false, world)⟩
    let returns : Stage Unit := ⟨"", "", fun _ => pure none⟩
    let raises : Stage Unit :=
      ⟨"", "", fun _ => Act.fail (.step (.plain "deploy-super" (.told "no") 7))⟩
    let catalogue : Catalogue Unit :=
      [("deploy-super", raises), ("deploy-rewards", returns), ("test-program", returns)]
    let desk : Desk Unit := ⟨.start ⟨.top, none, none, "make", "INFO"⟩ (.usual "make") default, ()⟩
    let session := after host [.resolve ["deploy-super"], .run] (opened catalogue desk)
    let ended := after host [.runStage "deploy-rewards"] session
    session.bench.sequencer.history = [.pending .rewards, .pending .registry, .failed] ∧
      perform host .run ended = ⟨.error .spent, [], ended⟩ := by
  intro host returns raises catalogue desk session ended
  have halted : session.bench.sequencer.history =
      [.pending .rewards, .pending .registry, .failed] := rfl
  have spent : session.bench.sequencer.history ≠ [] := by
    rw [halted]
    decide
  exact ⟨halted, (((history_of_session host catalogue desk _).2.2 spent).2 _ (by simp)).2⟩

end Session

end Rollout
