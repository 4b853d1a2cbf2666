import Rollout.Proofs.Sequence.Course

/-!
The records of a run, side by side.

A run leaves three records: the phases that its sequencer entered, the calls that its stages made,
and the outcomes in its context. Wherever it stops, they tell of the same steps: there is one call
for each phase that waited for a stage, and one outcome for each stage that returned.
-/

set_option autoImplicit false
set_option relaxedAutoImplicit false

namespace Rollout

namespace Attempt

variable {σ : Type} {attempt : Attempt σ}

/-- Whether a stage returned. -/
def returned (attempt : Attempt σ) : Bool := attempt.fault?.isNone

theorem returned_of_ok {outcome : Option Outcome} (answer : attempt.ran.answer = .ok outcome) :
    attempt.returned = true := by
  rw [returned, fault?_eq_none_iff.mpr ⟨outcome, answer⟩]
  rfl

theorem returned_of_error {fault : Fault} (answer : attempt.ran.answer = .error fault) :
    attempt.returned = false := by
  rw [returned, fault?_eq_some_iff.mpr answer]
  rfl

end Attempt

section Attempts

variable {σ : Type} (host : Host σ)

theorem filter_returned_attempts (catalogue : Catalogue σ) (steps : List Step) (desk : Desk σ) :
    (attempts host catalogue steps desk).filter (·.returned) =
      if faultOf (attempts host catalogue steps desk) = none then attempts host catalogue steps desk
      else (attempts host catalogue steps desk).dropLast := by
  induction steps generalizing desk with
  | nil => rfl
  | cons step rest ih =>
    cases answer : (Desk.runStage host catalogue step.name desk).answer with
    | ok outcome =>
      have unfaulted : (⟨step, Desk.runStage host catalogue step.name desk⟩ : Attempt σ).fault? =
          none := Attempt.fault?_eq_none_iff.mpr ⟨outcome, answer⟩
      rw [attempts_of_ok host catalogue answer, faultOf, List.findSome?_cons, unfaulted,
        List.filter_cons_of_pos (Attempt.returned_of_ok answer), ih]
      change _ = if faultOf _ = none then _ else _
      split
      · rfl
      · rename_i raised
        -- A row of attempts that a fault ended is not empty, so its last member stays the last.
        rw [List.dropLast_cons_of_ne_nil]
        intro empty
        rw [empty] at raised
        exact raised rfl
    | error fault =>
      have raised : (⟨step, Desk.runStage host catalogue step.name desk⟩ : Attempt σ).fault? =
          some fault := Attempt.fault?_eq_some_iff.mpr answer
      rw [attempts_of_error host catalogue answer]
      simp [faultOf, Attempt.returned, raised]

theorem names_deskAfter_attempts {steps : List Step} {desk : Desk σ}
    (distinct : (desk.context.outcomes.names ++ steps.map Step.name).Nodup) :
    (deskAfter desk (attempts host (.usual host) steps desk)).context.outcomes.names =
      desk.context.outcomes.names ++
        ((attempts host (.usual host) steps desk).filter (·.returned)).map (·.step.name) := by
  induction steps generalizing desk with
  | nil => exact (List.append_nil _).symm
  | cons step rest ih =>
    cases answer : (Desk.runStage host (.usual host) step.name desk).answer with
    | ok outcome? =>
      obtain ⟨call, outcome, -, -, state⟩ := Desk.exists_verdict_of_returned host answer
      -- No outcome of the step is there yet, so the new one is put behind all others.
      have absent : step.name ∉ desk.context.outcomes.names := by
        intro present
        exact (List.nodup_append.mp distinct).2.2 _ present _ List.mem_cons_self rfl
      have names : (Desk.runStage host (.usual host) step.name desk).state.context.outcomes.names =
          desk.context.outcomes.names ++ [step.name] := by
        rw [state]
        exact (Entries.names_put ..).trans (if_neg absent)
      have apart : ((Desk.runStage host (.usual host) step.name desk).state.context.outcomes.names
          ++ rest.map Step.name).Nodup := by simpa [names] using distinct
      rw [attempts_of_ok host _ answer, deskAfter, List.foldl_cons,
        List.filter_cons_of_pos (Attempt.returned_of_ok answer)]
      refine (ih apart).trans ?_
      rw [names, List.append_assoc]
      rfl
    | error fault =>
      have raised : (⟨step, Desk.runStage host (.usual host) step.name desk⟩ :
          Attempt σ).returned = false := Attempt.returned_of_error answer
      have kept := Desk.context_of_runStage_error host answer
      rw [attempts_of_error host _ answer]
      simp [deskAfter, raised, kept]

end Attempts

private theorem getLast?_entered_eq_done_iff (steps : List Step) (fault? : Option Fault) :
    (steps.map Phase.pending ++ Phase.closing fault?).getLast? = some .done ↔ fault? = none := by
  rcases fault? with _ | fault
  · simp [Phase.closing]
  · cases fault <;> simp [Phase.closing]

section Records

variable {σ : Type} (host : Host σ)

theorem calls_of_pending (desk : Desk σ) :
    let ran := Bench.run host (.usual host) ⟨.fresh, desk⟩
    let pending := ran.state.sequencer.history.filterMap Phase.step?
    ∃ programId,
      Event.calls ran.events = pending.map (Stage.callWith desk.context programId) ∧
        (.tests ∈ pending → ∃ result,
          Yields (host.reply (Stage.rewardsCall desk.context) desk.world) result programId) := by
  intro ran pending
  have waited : ∀ {steps calls fault? after}, Ends ran steps calls fault? after →
      pending = steps := fun ends => ends.pending_eq
  cases course_run host desk with
  | rewards fault failed ends =>
    rw [waited ends, ends.calls_eq]
    exact ⟨"", rfl, fun reached => absurd reached (by decide)⟩
  | registry first programId deployed fault failed ends =>
    rw [waited ends, ends.calls_eq]
    exact ⟨programId, rfl, fun _ => ⟨first, deployed⟩⟩
  | tests first second programId deployed registered fault failed ends =>
    rw [waited ends, ends.calls_eq]
    exact ⟨programId, rfl, fun _ => ⟨first, deployed⟩⟩
  | done first second third programId deployed registered tested ends =>
    rw [waited ends, ends.calls_eq]
    exact ⟨programId, rfl, fun _ => ⟨first, deployed⟩⟩

/-- Wherever a run stops that starts without outcomes, whether it answers or fails, it has made one
call for each phase that waited for a stage, in the order of the phases and each of them the call of
its step, and it leaves one outcome for each of these steps whose stage returned, in their order:
for all of them if it is done, else for all but the last. -/
theorem records_of_run (context : Context) (world : σ) :
    let desk : Desk σ := ⟨{ context with outcomes := [] }, world⟩
    let ran := Bench.run host (.usual host) ⟨.fresh, desk⟩
    let history := ran.state.sequencer.history
    let pending := history.filterMap Phase.step?
    let calls := Event.calls ran.events
    let tried := attempts host (.usual host) Step.all desk
    let names := ran.state.desk.context.outcomes.names
    calls.length = pending.length ∧
      (∃ programId, calls = pending.map (Stage.callWith context programId) ∧
        (.tests ∈ pending → ∃ result,
          Yields (host.reply (Stage.rewardsCall context) world) result programId)) ∧
      tried.map (·.step) = pending ∧
      names = (tried.filter (·.returned)).map (·.step.name) ∧
      (history.getLast? = some .done → names = pending.map Step.name) ∧
      (history.getLast? ≠ some .done → names = pending.dropLast.map Step.name) := by
  intro desk ran history pending calls tried names
  obtain ⟨programId, made, named⟩ := calls_of_pending host desk
  have told : ran = Bench.told ⟨.fresh, desk⟩ tried :=
    Bench.run_eq_told host _ rfl (Catalogue.missing_usual host)
  have entered : history = (tried.map (·.step)).map .pending ++ Phase.closing (faultOf tried) := by
    have phases : history = phasesOf tried := by
      simp only [history, told, Bench.told, Sequencer.history_enterAll]
      rfl
    rw [phases, List.map_map]
    rfl
  have steps : tried.map (·.step) = pending := by
    have waited := congrArg (List.filterMap Phase.step?) entered
    rw [Phase.filterMap_step?_entered] at waited
    exact waited.symm
  have recorded : names = (tried.filter (·.returned)).map (·.step.name) := by
    have distinct : (desk.context.outcomes.names ++ Step.all.map Step.name).Nodup := by
      simp only [desk]
      decide
    simp only [names, told, Bench.told]
    exact names_deskAfter_attempts host distinct
  have last : history.getLast? = some .done ↔ faultOf tried = none := by
    rw [entered, getLast?_entered_eq_done_iff]
  have completed := filter_returned_attempts host (.usual host) Step.all desk
  refine ⟨?_, ⟨programId, made, named⟩, steps, recorded, fun done => ?_, fun undone => ?_⟩
  · exact (congrArg List.length made).trans (List.length_map _)
  · rw [if_pos (last.mp done)] at completed
    rw [recorded, completed, ← steps, List.map_map]
    rfl
  · rw [if_neg (mt last.mpr undone)] at completed
    rw [recorded, completed, ← steps, ← List.map_dropLast, List.map_map]
    rfl

end Records

end Rollout
