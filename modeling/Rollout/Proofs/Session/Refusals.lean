import Rollout.Proofs.Session.Registrations

/-!
Runs that are refused because a stage is missing.

A run that is refused up front names the steps without a stage, does nothing, and does not count as
the one run of its sequencer: it can be left out of a session. Once the stages are registered, the
same sequencer runs as a fresh one does.
-/

set_option autoImplicit false
set_option relaxedAutoImplicit false

namespace Rollout

/-- The steps that have no stage in a catalogue, in the order of the sequence. -/
def Catalogue.lacking {σ : Type} (catalogue : Catalogue σ) : List Step :=
  Step.all.filter fun step => step.name ∉ catalogue.names

theorem Catalogue.missing_steps {σ : Type} (catalogue : Catalogue σ) :
    catalogue.missing (Step.all.map Step.name) = catalogue.lacking.map Step.name := by
  rw [missing_eq, List.filter_map]
  rfl

theorem Catalogue.mem_lacking_iff {σ : Type} {catalogue : Catalogue σ} {step : Step} :
    step ∈ catalogue.lacking ↔ step.name ∉ catalogue.names := by
  have listed : step ∈ Step.all := by cases step <;> decide
  simp [lacking, listed]

theorem Catalogue.lacking_eq_nil_iff {σ : Type} {catalogue : Catalogue σ} :
    catalogue.lacking = [] ↔ ∀ step : Step, step.name ∈ catalogue.names := by
  simp [List.eq_nil_iff_forall_not_mem, mem_lacking_iff]

namespace Bench

variable {σ : Type} (host : Host σ)

theorem run_of_lacking {catalogue : Catalogue σ} {bench : Bench σ}
    (fresh : bench.sequencer.history = []) (lacking : catalogue.lacking ≠ []) :
    run host catalogue bench =
      ⟨.error (.stagesUnknown (catalogue.lacking.map Step.name)), [], bench⟩ := by
  obtain ⟨step, steps, split⟩ := List.exists_cons_of_ne_nil lacking
  have missing := catalogue.missing_steps
  rw [split, List.map_cons] at missing
  rw [run_of_missing host catalogue fresh missing, split, List.map_cons]

end Bench

/-- A sequencer after a row of runs, each with a catalogue of its own and at a desk of its own. -/
def Sequencer.afterRuns {σ : Type} (host : Host σ) (sequencer : Sequencer)
    (runs : List (Catalogue σ × Desk σ)) : Sequencer :=
  runs.foldl (fun sequencer run => (Bench.run host run.1 ⟨sequencer, run.2⟩).state.sequencer)
    sequencer

theorem Sequencer.afterRuns_fresh {σ : Type} (host : Host σ) {runs : List (Catalogue σ × Desk σ)}
    (lacking : ∀ run ∈ runs, run.1.lacking ≠ []) : fresh.afterRuns host runs = fresh := by
  induction runs with
  | nil => rfl
  | cons run rest ih =>
    obtain ⟨first, others⟩ := List.forall_mem_cons.mp lacking
    rw [afterRuns, List.foldl_cons, Bench.run_of_lacking host rfl first]
    exact ih others

def Operation.isRun {σ : Type} : Operation σ → Bool
  | .run => true
  | _ => false

namespace Session

variable {σ : Type} (host : Host σ)

/-- A stage is missing for every run among operations at the time of the run. -/
def RunsLack (start : Session σ) (operations : List (Operation σ)) : Prop :=
  ∀ before later, operations = before ++ .run :: later →
    (after host before start).catalogue.lacking ≠ []

theorem perform_run_of_lacking {session : Session σ} (fresh : session.bench.sequencer = .fresh)
    (lacking : session.catalogue.lacking ≠ []) :
    perform host .run session =
      ⟨.error (.stagesUnknown (session.catalogue.lacking.map Step.name)), [], session⟩ := by
  have unused : session.bench.sequencer.history = [] := congrArg Sequencer.history fresh
  rw [perform_run, Bench.run_of_lacking host unused lacking]
  rfl

theorem after_of_runsLack {start : Session σ} (fresh : start.bench.sequencer = .fresh)
    {operations : List (Operation σ)} (lack : RunsLack host start operations) :
    after host operations start = after host (operations.filter (!·.isRun)) start ∧
      (after host operations start).bench.sequencer = .fresh := by
  induction operations using List.reverseRecOn with
  | nil => exact ⟨rfl, fresh⟩
  | append_singleton operations operation ih =>
    have earlier : RunsLack host start operations := fun before later split =>
      lack before (later ++ [operation]) (by simp [split])
    -- Whether the last operation is refused depends on the session that the others leave.
    obtain ⟨same, idle⟩ := ih earlier
    rw [after_concat, List.filter_append]
    by_cases run : operation = .run
    · subst run
      rw [perform_run_of_lacking host idle (lack operations [] rfl)]
      exact ⟨by simpa [Operation.isRun] using same, idle⟩
    · have other : operation.isRun = false := by
        cases operation with
        | run => exact absurd rfl run
        | _ => rfl
      refine ⟨by simp [other, after_concat, same], ?_⟩
      by_cases renew : operation = .renewSequencer
      · subst renew
        rfl
      · exact (sequencer_perform host run renew _).trans idle

/-- A run of a fresh sequencer for which stages of the sequence are missing is refused with the names
of these stages, and does nothing. Such runs do not count: whatever catalogues they were tried with
and wherever, the sequencer then runs as a fresh one does. They leave no trace in a session either,
and once the missing stages are registered in it, the sequencer does run. -/
theorem refusals_of_session (catalogue : Catalogue σ) (desk : Desk σ) :
    let start := opened catalogue desk
    let names := catalogue.lacking.map Step.name
    (catalogue.lacking ≠ [] →
      perform host .run start = ⟨.error (.stagesUnknown names), [], start⟩) ∧
      (Fault.stagesUnknown names).message =
        "Unknown stages requested: " ++ ", ".intercalate names ∧
      (∀ runs : List (Catalogue σ × Desk σ), (∀ run ∈ runs, run.1.lacking ≠ []) →
        Bench.run host catalogue ⟨Sequencer.fresh.afterRuns host runs, desk⟩ =
          Bench.run host catalogue ⟨.fresh, desk⟩) ∧
      ∀ operations, RunsLack host start operations →
        let session := after host operations start
        session = after host (operations.filter (!·.isRun)) start ∧
          perform host .run session =
            perform host .run (opened session.catalogue session.bench.desk) ∧
          ((∀ step ∈ catalogue.lacking, ∃ stage, .register step.name stage ∈ operations) →
            (perform host .run session).state.bench.sequencer.history ≠ []) := by
  intro start names
  refine ⟨fun lacking => perform_run_of_lacking host rfl lacking, rfl, fun runs lacking => ?_,
    fun operations lack => ?_⟩
  · rw [Sequencer.afterRuns_fresh host lacking]
  · intro session
    have fresh : start.bench.sequencer = .fresh := rfl
    obtain ⟨same, idle⟩ := after_of_runsLack host fresh lack
    have again : session = opened session.catalogue session.bench.desk :=
      congrArg (fun sequencer => Session.mk session.catalogue ⟨sequencer, session.bench.desk⟩) idle
    refine ⟨same, congrArg (perform host .run) again, fun registered => ?_⟩
    -- Each step had its stage from the beginning or is one of those registered since.
    have complete : session.catalogue.lacking = [] := by
      refine Catalogue.lacking_eq_nil_iff.mpr fun step => ?_
      refine (mem_names_after_iff host operations start step.name).mpr ?_
      by_cases present : step.name ∈ catalogue.names
      · exact .inl present
      · exact .inr (registered step (Catalogue.mem_lacking_iff.mpr present))
    have found : session.catalogue.missing (Step.all.map Step.name) = [] := by
      rw [session.catalogue.missing_steps, complete, List.map_nil]
    exact (began_of_complete host idle found).history_ne_nil host

end Session

end Rollout
