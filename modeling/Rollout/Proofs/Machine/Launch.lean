import Rollout.Machine.Launch
import Rollout.Proofs.Command

/-!
How the commands of the machine end.

A command that is tried has an ending, and its result tells that; one that is not tried is refused
for a reason that is neither a failed step nor a fault of the plan.
-/

set_option autoImplicit false
set_option relaxedAutoImplicit false

namespace Rollout.Machine

private theorem fault?_eq_some {environment : Environment} {call : Call} {fault : Fault}
    (refused : fault? environment call = some fault) :
    fault = .noArguments ∨ fault = .variableName ∨ fault = .nullCharacter := by
  simp only [fault?] at refused
  split at refused
  · cases refused
    exact .inl rfl
  · split at refused
    · cases refused
      exact .inr (.inl rfl)
    · split at refused
      · cases refused
        exact .inr (.inr rfl)
      · cases refused

private theorem waitFault?_eq_some {duration : Number.Binary64} {fault : Fault}
    (refused : waitFault? duration = some fault) :
    fault = .unboundedWait ∨ fault = .waitUncountable ∨ fault = .waitTooLong := by
  simp only [waitFault?] at refused
  split at refused
  · cases refused
    exact .inl rfl
  · split at refused
    · cases refused
      exact .inr (.inl rfl)
    · split at refused
      · cases refused
        exact .inr (.inr rfl)
      · cases refused

theorem launch_answer (call : Call) (world : World) :
    (∃ ending output, (launch call world).answer = .ok (.ofEnding call.argv ending output)) ∨
      ∃ fault, (launch call world).answer = .error fault ∧
        (∀ stepFault, fault ≠ .step stepFault) ∧ ∀ planFault, fault ≠ .plan planFault := by
  cases refused : fault? world.environment call with
  | some fault =>
    refine .inr ⟨fault, by simp only [launch, refused], ?_⟩
    rcases fault?_eq_some refused with rfl | rfl | rfl <;> exact ⟨nofun, nofun⟩
  | none =>
    cases begun : begin world.disk (environmentFor world.environment call) call with
    | error fault =>
      refine .inl ⟨endingFor fault.cause, none, ?_⟩
      simp only [launch, refused, begun]
    | ok started =>
      simp only [launch, refused, begun]
      split
      · rename_i fault unwaited
        refine .inr ⟨fault, rfl, ?_⟩
        split at unwaited
        · obtain ⟨duration, -, waited⟩ := Option.bind_eq_some_iff.mp unwaited
          rcases waitFault?_eq_some waited with rfl | rfl | rfl <;> exact ⟨nofun, nofun⟩
        · cases unwaited
      · refine .inl ?_
        split
        · exact ⟨_, _, rfl⟩
        · exact ⟨_, _, rfl⟩

/-- A command whose output is kept is run, and these bytes are what it writes there in the time that
it has. -/
structure Prints (call : Call) (world : World) (bytes : List UInt8) : Prop where
  kept : call.capture = true
  sound : fault? world.environment call = none
  begun : ∃ image place,
    let environment := environmentFor world.environment call
    let limit? := call.timeout.bind nanoseconds?
    begin world.disk environment call = .ok (image, place) ∧
      call.timeout.bind waitFault? = none ∧
      (runImage world environment image place call (limit?.getD patience)).written limit? .result =
        bytes

theorem launch_of_prints {call : Call} {world : World} {bytes : List UInt8}
    (prints : Prints call world bytes) :
    ∃ ending, (launch call world).answer =
      .ok (.ofEnding call.argv ending (some (textOf bytes))) := by
  obtain ⟨kept, sound, image, place, begun, waits, rfl⟩ := prints
  simp only [launch, sound, begun, kept, if_true, waits]
  split
  · exact ⟨_, rfl⟩
  · exact ⟨_, rfl⟩

theorem launch_of_endless {call : Call} {world : World}
    (sound : fault? world.environment call = none) (kept : call.capture = true)
    (endless : call.timeout = some (.infinite false)) {image : Image} {place : Place}
    (begun : begin world.disk (environmentFor world.environment call) call = .ok (image, place)) :
    (launch call world).answer = .error .unboundedWait := by
  simp only [launch, sound, begun, kept, endless, if_true, Option.bind_some, waitFault?,
    milliseconds?]

theorem host_repeatsWords : host.RepeatsWords := by
  intro call world result replied
  rcases launch_answer call world with ⟨ending, output, answered⟩ | ⟨fault, answered, -⟩
  · cases Except.ok.inj (answered.symm.trans replied)
    rfl
  · exact nomatch answered.symm.trans replied

theorem host_raisesNoStepFault : host.RaisesNoStepFault := by
  intro call world fault raised
  rcases launch_answer call world with ⟨ending, output, answered⟩ | ⟨other, answered, plain, -⟩
  · exact nomatch answered.symm.trans raised
  · exact plain fault (Except.error.inj (answered.symm.trans raised))

end Rollout.Machine
