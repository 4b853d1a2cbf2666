import Rollout.Proofs.Machine.Launch

/-!
The environment that the machine gives to a command.

It is the environment of the program with the variables of the call over it. Nothing else of the two
has a part in what the command does, so a command does with variables of its call what it would do
if the program had them itself. The environment of the program stays as it is.
-/

set_option autoImplicit false
set_option relaxedAutoImplicit false

namespace Rollout

/-- Names that an environment can hold: they are not empty, and hold neither an equals sign nor a null
character. -/
def Environment.IsVariable (name : String) : Prop :=
  name ≠ "" ∧ '=' ∉ name.toList ∧ '\x00' ∉ name.toList

instance (name : String) : Decidable (Environment.IsVariable name) :=
  inferInstanceAs (Decidable (_ ∧ _ ∧ _))

/-- An environment as a process can have it. -/
def Environment.IsSound (environment : Environment) : Prop :=
  ∀ entry ∈ environment, IsVariable entry.1 ∧ '\x00' ∉ entry.2.toList

namespace Machine

theorem environmentFor_of_bare {call : Call} (bare : call.overlay.getD [] = [])
    (environment : Environment) : environmentFor environment call = environment := by
  rw [environmentFor, bare]
  rfl

theorem get?_environmentFor {call : Call} {extra : Entries String} (laid : call.overlay = some extra)
    (distinct : (Entries.names extra).Nodup) (environment : Environment) (name : String) :
    (environmentFor environment call).get? name = (extra.get? name).or (environment.get? name) := by
  rw [environmentFor, laid]
  exact Entries.get?_overlay distinct name environment

theorem environment_stateFor (world : World) (environment : Environment) (place : Place) (call : Call)
    (deadline : Nat) :
    (stateFor world environment place call deadline).process.environment = environment := by
  exact List.filterMap_map.trans List.filterMap_some

theorem environment_launch (call : Call) (world : World) :
    (launch call world).world.environment = world.environment := by
  simp only [launch]
  repeat' split
  all_goals rfl

theorem fault?_eq_none_iff {environment : Environment} {call : Call} :
    fault? environment call = none ↔
      call.argv ≠ [] ∧ (∀ word ∈ call.argv, '\x00' ∉ word.toList) ∧
        '\x00' ∉ call.directory.toString.toList ∧
        (call.overlay.getD [] ≠ [] → ∀ entry ∈ environmentFor environment call,
          '=' ∉ entry.1.toList ∧ '\x00' ∉ entry.1.toList ∧ '\x00' ∉ entry.2.toList) := by
  have passed {refused : Prop} [Decidable refused] {fault : Fault} {next : Option Fault} :
      (if refused then some fault else next) = none ↔ ¬refused ∧ next = none := by
    split <;> simp_all
  simp only [fault?, passed, String.contains_char_eq]
  by_cases bare : call.overlay.getD [] = []
  · simp [bare]
  · have laid : (call.overlay.getD []).isEmpty = false := by simpa using bare
    simp [laid, bare]
    grind

theorem fault?_of_variable {environment : Environment} (sound : environment.IsSound) {call : Call}
    {name value : String} (laid : call.overlay = some [(name, value)])
    (named : Environment.IsVariable name) (plain : '\x00' ∉ value.toList)
    (words : call.argv ≠ [] ∧ ∀ word ∈ call.argv, '\x00' ∉ word.toList)
    (placed : '\x00' ∉ call.directory.toString.toList) : fault? environment call = none := by
  refine fault?_eq_none_iff.mpr ⟨words.1, words.2, placed, fun _ entry mem => ?_⟩
  rw [environmentFor, laid] at mem
  rcases Entries.mem_put mem with rfl | old
  · exact ⟨named.2.1, named.2.2, plain⟩
  · exact ⟨(sound entry old).1.2.1, (sound entry old).1.2.2, (sound entry old).2⟩

theorem launch_inherited {call : Call} {world : World}
    (sound : fault? world.environment call = none) :
    let given := environmentFor world.environment call
    let inherited := launch { call with overlay := none } { world with environment := given }
    launch call world =
      { inherited with world := { inherited.world with environment := world.environment } } := by
  intro given inherited
  have bare : fault? given { call with overlay := none } = none := by
    rw [fault?_eq_none_iff] at sound ⊢
    exact ⟨sound.1, sound.2.1, sound.2.2.1, fun laid => absurd rfl laid⟩
  have same : environmentFor given { call with overlay := none } = given :=
    environmentFor_of_bare rfl given
  have began :
      begin world.disk given { call with overlay := none } = begin world.disk given call := rfl
  have ran (image : Image) (place : Place) (deadline : Nat) :
      runImage { world with environment := given } given image place { call with overlay := none }
        deadline = runImage world given image place call deadline := rfl
  simp only [inherited, launch, sound, bare, same, began, ran]
  cases begin world.disk given call with
  | error fault => rfl
  | ok started =>
    obtain ⟨image, place⟩ := started
    cases if call.capture then call.timeout.bind waitFault? else none with
    | some fault => rfl
    | none =>
      dsimp only
      split <;> rfl

end Machine

end Rollout
