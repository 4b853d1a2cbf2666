import Rollout.Proofs.Environment.Seeding
import Rollout.Proofs.Plan.Fields
import Rollout.Proofs.Stage.Running
import Rollout.Proofs.Token.Occurrences

/-!
How the program id reaches the tests.

The id is joined to the name of the parameter by a sign of equality. The sign may stand in an id, as
the name comes first; but a plan file may also give a name in which it stands, and then the argument
reads as a shorter name with a longer value.
-/

set_option autoImplicit false
set_option relaxedAutoImplicit false

namespace Rollout

namespace Environment

variable {name before more value : List Char}

theorem splitAtEquals_joined_iff :
    splitAtEquals (name ++ '=' :: value) = some (name, value) ↔ '=' ∉ name := by
  rw [splitAtEquals_eq_some_iff]
  exact and_iff_right rfl

theorem splitAtEquals_joined_of_mem (parts : name = before ++ '=' :: more) (first : '=' ∉ before) :
    splitAtEquals (name ++ '=' :: value) = some (before, more ++ '=' :: value) := by
  rw [splitAtEquals_eq_some_iff]
  refine ⟨?_, first⟩
  rw [parts, List.append_assoc, List.cons_append]

end Environment

namespace Plan

theorem toList_argument (plan : Plan) (programId : String) :
    (plan.argument programId).toList = plan.parameter.toList ++ '=' :: programId.toList := by
  simp [argument]

/-- The tests of a plan are given an id that was extracted in an argument behind their own words, and
as a variable. The argument reads as the name and the value of that variable exactly if the name that
the plan file gives, or the usual one, has no sign of equality in it. -/
theorem forwarded_reads_back {make : String} {payload : Value} {plan : Plan}
    {output programId : String} (accepted : ofPayload make payload = .ok plan)
    (extracted : Token.extract output = .ok programId) :
    let name := ((given? (fieldsOf payload) "parameter").map Value.shown).getD usualParameter
    plan.parameter = name ∧
      (∃ argument, plan.forward programId = plan.tests.argv ++ [argument] ∧
        (Environment.splitAtEquals argument.toList =
          some (plan.parameter.toList, programId.toList) ↔ '=' ∉ name.toList) ∧
        ∀ before more, name.toList = before ++ '=' :: more → '=' ∉ before →
          Environment.splitAtEquals argument.toList =
            some (before, more ++ '=' :: programId.toList)) ∧
      ∀ {σ : Type} (host : Host σ) (context : Context) (world : σ), context.plan = plan →
        context.programId = some programId → ∃ call : Call,
          Event.deeds (Stage.runTests host context world).events = [.call call] ∧
            call.argv = plan.forward programId ∧
            call.overlay = some [(plan.parameter, programId)] := by
  intro name
  have same : plan.parameter = name := parameter_of_payload accepted
  refine ⟨same, ⟨plan.argument programId, rfl, ?_, fun before more parts first => ?_⟩, ?_⟩
  · rw [toList_argument, same]
    exact Environment.splitAtEquals_joined_iff
  · rw [toList_argument, same]
    exact Environment.splitAtEquals_joined_of_mem parts first
  · intro σ host context world planned held
    have inked := (Token.extract_eq_ok_iff.mp extracted).2
    have ready := Stage.readyProgramId_eq_ok held inked
    have made : Stage.callFor context .tests = .ok (Stage.testsCall context programId) := by
      rw [Stage.callFor, ready]
      rfl
    obtain ⟨-, deeds, -⟩ := Stage.action_makes host made world
    subst planned
    exact ⟨_, deeds, rfl, rfl⟩

/-- An id with the sign in it is read back. -/
theorem forwarded_reads_back_equals :
    let payload : Value := .map [(.text "parameter", .text "REWARDS_ID")]
    let plan : Plan := { usual "make" with parameter := "REWARDS_ID" }
    ofPayload "make" payload = .ok plan ∧ Token.extract "\x7bprogramId: a=b\x7d" = .ok "a=b" ∧
      ∃ argument, plan.forward "a=b" = ["make", "test-program-super", argument] ∧
        Environment.splitAtEquals argument.toList = some ("REWARDS_ID".toList, "a=b".toList) := by
  intro payload plan
  have accepted : ofPayload "make" payload = .ok plan := rfl
  have extracted : Token.extract "\x7bprogramId: a=b\x7d" = .ok "a=b" := by decide +kernel
  obtain ⟨-, ⟨argument, forwarded, reads, -⟩, -⟩ := forwarded_reads_back accepted extracted
  have plain : '=' ∉ "REWARDS_ID".toList := by decide
  exact ⟨accepted, extracted, argument, forwarded, reads.mpr plain⟩

/-- A name with the sign in it is not. -/
theorem forwarded_name_cut :
    let payload : Value := .map [(.text "parameter", .text "A=B")]
    let plan : Plan := { usual "make" with parameter := "A=B" }
    ofPayload "make" payload = .ok plan ∧ Token.extract "\x7bprogramId: X\x7d" = .ok "X" ∧
      plan.forward "X" = plan.tests.argv ++ ["A=B=X"] ∧
      Environment.splitAtEquals "A=B=X".toList = some ("A".toList, "B=X".toList) ∧
      Environment.splitAtEquals "A=B=X".toList ≠ some (plan.parameter.toList, "X".toList) := by
  refine ⟨rfl, ?_, rfl, ?_, ?_⟩
  · decide +kernel
  · decide
  · decide

end Plan

end Rollout
