import Rollout.Proofs.Sequence.Course

/-!
The calls of a run.

A run of the usual stages makes the three calls of its plan in their order and stops after the first
that does not succeed. The tests are called with the one program id that the rewards command named
in this run, and only if that command succeeded.
-/

set_option autoImplicit false
set_option relaxedAutoImplicit false

namespace Rollout

section Calls

variable {σ : Type} (host : Host σ)

theorem not_succeeds_of_failed {desk : Desk σ} {call : Call} {fault : Fault}
    (failed : desk.verdict host .registry call = .error fault) (result : Result) :
    ¬ Succeeds (host.reply call desk.world) result := by
  intro registered
  have returned := (Desk.verdict_registry_eq_ok_iff host).mpr ⟨result, registered, rfl⟩
  rw [failed] at returned
  cases returned

private theorem yields_iff {reply : Except Fault Result} {first : Result} {programId : String}
    (deployed : Yields reply first programId) (other : String) :
    (∃ result, Yields reply result other) ↔ other = programId := by
  constructor
  · rintro ⟨result, again⟩
    exact (deployed.unique again).2
  · rintro rfl
    exact ⟨first, deployed⟩

private theorem calls_run_cases (desk : Desk σ) :
    let rewards := Stage.rewardsCall desk.context
    let registry := Stage.registryCall desk.context
    let first := host.reply rewards desk.world
    let second := host.reply registry (host.settle rewards desk.world)
    let calls := Event.calls (Bench.run host (.usual host) ⟨.fresh, desk⟩).events
    (calls = [rewards] ∧ ∀ result programId, ¬ Yields first result programId) ∨
      (∃ result programId, calls = [rewards, registry] ∧ Yields first result programId ∧
        ∀ other, ¬ Succeeds second other) ∨
      ∃ result programId other,
        calls = [rewards, registry, Stage.testsCall desk.context programId] ∧
          Yields first result programId ∧ Succeeds second other := by
  cases course_run host desk with
  | rewards fault failed ends =>
    exact .inl ⟨ends.calls_eq, Desk.not_yields_of_failed host failed⟩
  | registry first programId deployed fault failed ends =>
    have refused := not_succeeds_of_failed host failed
    exact .inr (.inl ⟨first, programId, ends.calls_eq, deployed, refused⟩)
  | tests first second programId deployed registered fault failed ends =>
    exact .inr (.inr ⟨first, programId, second, ends.calls_eq, deployed, registered⟩)
  | done first second third programId deployed registered tested ends =>
    exact .inr (.inr ⟨first, programId, second, ends.calls_eq, deployed, registered⟩)

/-- The calls of a run are a part of the three calls of the plan, from the first on. The registry is
deployed exactly if the rewards command succeeded and named a program, the tests are run exactly if
the registry command succeeded too, and they are given the id of that program. -/
theorem calls_of_run (desk : Desk σ) :
    let context := desk.context
    let plan := context.plan
    let timeout := context.settings.timeout.or plan.timeout
    let rewards : Call :=
      ⟨plan.rewards.argv, plan.rewards.directory context.workspace, none, true, timeout⟩
    let registry : Call :=
      ⟨plan.registry.argv, plan.registry.directory context.workspace, none, false, timeout⟩
    let tests (programId : String) : Call :=
      ⟨plan.tests.argv ++ [plan.parameter ++ "=" ++ programId],
        plan.tests.directory context.workspace, some [(plan.parameter, programId)], false, timeout⟩
    let first := host.reply rewards desk.world
    let second := host.reply registry (host.settle rewards desk.world)
    let calls := Event.calls (Bench.run host (.usual host) ⟨.fresh, desk⟩).events
    (∃ programId, calls <+: [rewards, registry, tests programId]) ∧
      rewards ∈ calls ∧
      (registry ∈ calls ↔ ∃ result programId, Yields first result programId) ∧
      (∀ programId, tests programId ∈ calls ↔
        (∃ result, Yields first result programId) ∧ ∃ result, Succeeds second result) ∧
      (∀ result, first = .ok result → ¬ Succeeds first result → calls = [rewards]) := by
  intro context plan timeout rewards registry tests first second calls
  have registry_ne : registry ≠ rewards := fun same => nomatch congrArg Call.capture same
  have tests_ne_rewards : ∀ id, tests id ≠ rewards := fun id same =>
    nomatch congrArg Call.overlay same
  have tests_ne_registry : ∀ id, tests id ≠ registry := fun id same =>
    nomatch congrArg Call.overlay same
  have tests_inj : ∀ id other, tests id = tests other ↔ id = other := by
    intro id other
    refine ⟨fun same => ?_, fun same => same ▸ rfl⟩
    have overlay := congrArg Call.overlay same
    simpa [tests] using overlay
  -- A reply that yields an id tells of success, so a failed command has none to be used.
  have unused : ∀ {result programId}, Yields first result programId →
      ∀ other, first = .ok other → ¬ Succeeds first other → calls = [rewards] := by
    intro result programId named other replied failed
    have same : other = result := Except.ok.inj (replied.symm.trans named.1.1)
    exact absurd (same ▸ named.1) failed
  rcases calls_run_cases host desk with ⟨made, unnamed⟩ | ⟨result, id, made, named, refused⟩ |
    ⟨result, id, other, made, named, registered⟩
  · have made : calls = [rewards] := made
    have unnamed : ∀ result id, ¬ Yields first result id := unnamed
    rw [made]
    refine ⟨⟨"", by simp⟩, by simp, ?_, ?_, fun _ _ _ => rfl⟩
    · simp [registry_ne, unnamed]
    · simp [tests_ne_rewards, unnamed]
  · have made : calls = [rewards, registry] := made
    have named : Yields first result id := named
    have refused : ∀ other, ¬ Succeeds second other := refused
    refine ⟨⟨id, by simp [made]⟩, by simp [made], ?_, ?_, unused named⟩
    · simpa [made] using ⟨result, id, named⟩
    · simp [made, tests_ne_rewards, tests_ne_registry, refused]
  · have made : calls = [rewards, registry, tests id] := made
    have named : Yields first result id := named
    have registered : Succeeds second other := registered
    refine ⟨⟨id, by simp [made]⟩, by simp [made], ?_, ?_, unused named⟩
    · simpa [made] using ⟨result, id, named⟩
    · intro programId
      rw [yields_iff named programId]
      simpa [made, tests_ne_rewards, tests_ne_registry, tests_inj] using fun _ =>
        ⟨other, registered⟩

theorem calls_of_done (desk : Desk σ) {report : Report}
    (answered : (Desk.runSequence host desk).answer = .ok report) (done : report.phase = .done) :
    ∃ programId, report.programId = some programId ∧
      Event.calls (Desk.runSequence host desk).events =
        Step.all.map (Stage.callWith desk.context programId) := by
  cases course_run host desk with
  | rewards fault failed ends => cases ends.fault_eq_none answered done
  | registry first programId deployed fault failed ends => cases ends.fault_eq_none answered done
  | tests first second programId deployed registered fault failed ends =>
    cases ends.fault_eq_none answered done
  | done first second third programId deployed registered tested ends =>
    cases ends.answer.symm.trans answered
    exact ⟨programId, Desk.programId_afterTests host desk first second third programId,
      ends.calls_eq⟩

end Calls

end Rollout
