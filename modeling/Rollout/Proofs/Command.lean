import Rollout.Act

/-!
The exit code of a program that fails because of a command.

It is never zero, however the command ended: a signal, a command that ran out of time and a command
that was not started count as failures.
-/

set_option autoImplicit false
set_option relaxedAutoImplicit false

namespace Rollout

namespace Ending

/-- The endings that a system reports: a status fits one byte, and the number of a signal is
positive. -/
def IsPossible : Ending → Prop
  | .exited status => status ≤ 255
  | .killed signal => 0 < signal
  | _ => True

instance : DecidablePred IsPossible
  | .exited status => inferInstanceAs (Decidable (status ≤ 255))
  | .killed signal => inferInstanceAs (Decidable (0 < signal))
  | .barred | .absent | .expired => inferInstanceAs (Decidable True)

/-- The exit code of a program that fails because a command ended so, if that is a failure. -/
def failure? : Ending → Option Int
  | .barred => some 126
  | .absent => some 127
  | .expired => some 124
  | .exited 0 => none
  | .exited status => some status
  | .killed _ => some 1

theorem failure?_eq_none_iff {ending : Ending} : ending.failure? = none ↔ ending = .exited 0 := by
  unfold failure?
  split <;> simp_all

theorem failure?_bounds {ending : Ending} (possible : ending.IsPossible) {code : Int}
    (failed : ending.failure? = some code) : 1 ≤ code ∧ code ≤ 255 := by
  cases ending with
  | exited status =>
    have small : status ≤ 255 := possible
    cases status with
    | zero => cases failed
    | succ n =>
      cases failed
      omega
  | _ =>
    cases failed
    decide

end Ending

namespace Result

theorem exitCode_pos (result : Result) : 0 < result.exitCode := by
  unfold exitCode
  split <;> omega

theorem ok_ofEnding {ending : Ending} (possible : ending.IsPossible) (argv : List String)
    (output : Option String) :
    (ofEnding argv ending output).ok = true ↔ ending.failure? = none := by
  rw [Ending.failure?_eq_none_iff]
  cases ending with
  | exited status => simp [ofEnding, ok, Ending.status]
  | killed signal =>
    have positive : 0 < signal := possible
    simp only [ofEnding, ok, Ending.status, reduceCtorEq, iff_false]
    simp
    omega
  | _ => simp [ofEnding, ok, Ending.status] <;> decide

theorem exitCode_ofEnding {ending : Ending} {code : Int} (failed : ending.failure? = some code)
    (argv : List String) (output : Option String) :
    (ofEnding argv ending output).exitCode = code := by
  cases ending with
  | exited status =>
    cases status with
    | zero => cases failed
    | succ n =>
      cases failed
      have positive : ((n + 1 : Nat) : Int) > 0 := by omega
      exact if_pos positive
  | killed signal =>
    cases failed
    have negative : ¬ -(signal : Int) > 0 := by omega
    exact if_neg negative
  | _ =>
    cases failed
    rfl

end Result

namespace Host

/-- A host raises no step faults: these come from the stages alone. -/
def RaisesNoStepFault {σ : Type} (host : Host σ) : Prop :=
  ∀ call world fault, (host.launch call world).answer ≠ .error (.step fault)

/-- The results on a host repeat the words that the command was called with. -/
def RepeatsWords {σ : Type} (host : Host σ) : Prop :=
  ∀ call world result, (host.launch call world).answer = .ok result → result.argv = call.argv

def ending (text : Option String) (rewards registry tests : Ending) : Host Unit where
  launch call world :=
    let result : Result :=
      if call.capture then .ofEnding call.argv rewards text
      else .ofEnding call.argv (if call.overlay.isNone then registry else tests) none
    ⟨.ok result, [], world⟩
  tick world := (.zero false, world)

theorem ending_raisesNoStepFault (text : Option String) (rewards registry tests : Ending) :
    (ending text rewards registry tests).RaisesNoStepFault := by
  intro call world fault raised
  simp only [ending, reduceCtorEq] at raised

theorem ending_repeatsWords (text : Option String) (rewards registry tests : Ending) :
    (ending text rewards registry tests).RepeatsWords := by
  intro call world result answered
  simp only [ending] at answered
  cases answered
  split <;> rfl

end Host

end Rollout
