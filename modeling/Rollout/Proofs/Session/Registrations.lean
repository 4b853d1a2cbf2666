import Rollout.Proofs.Catalogue.Registration
import Rollout.Proofs.Session.History

/-!
The catalogue of a session.

Only registrations change it, and they only add to it. After a row of registrations it holds the
first of each name, whichever way it is looked at.
-/

set_option autoImplicit false
set_option relaxedAutoImplicit false

namespace Rollout

/-- The operation that registers a stage under a name. -/
def Operation.ofCall {σ : Type} (call : String × Stage σ) : Operation σ := .register call.1 call.2

namespace Session

open Catalogue (AreFirsts IsFirstCall Keeps)

variable {σ : Type} (host : Host σ)

theorem perform_register (name : String) (stage : Stage σ) (session : Session σ) :
    perform host (.register name stage) session =
      if name ∈ session.catalogue.names then ⟨.error (.stageTaken name), [], session⟩
      else ⟨.ok .done, [], { session with catalogue := session.catalogue ++ [(name, stage)] }⟩ := by
  simp only [perform, Act.bind_apply, Act.get_apply, Act.ofExcept_apply, Catalogue.register_eq]
  by_cases taken : name ∈ session.catalogue.names
  · simp only [if_pos taken]
    rfl
  · simp only [if_neg taken]
    rfl

theorem perform_find (name : String) (session : Session σ) :
    perform host (.find name) session =
      ⟨(session.catalogue.find name).map fun stage => .stage name stage.description stage.logger,
        [], session⟩ := by
  simp only [perform, Act.bind_apply, Act.get_apply, Act.ofExcept_apply]
  cases session.catalogue.find name <;> rfl

theorem keeps_after (calls : List (String × Stage σ)) (bench : Bench σ) :
    let session := after host (calls.map .ofCall) ⟨[], bench⟩
    session.bench = bench ∧ Keeps calls session.catalogue := by
  induction calls using List.reverseRecOn with
  | nil => exact ⟨rfl, .nil⟩
  | append_singleton calls call ih =>
    obtain ⟨name, stage⟩ := call
    obtain ⟨same, keeps⟩ := ih
    simp only [List.map_append, List.map_singleton, after_concat, Operation.ofCall,
      perform_register]
    split
    · rename_i taken
      exact ⟨same, keeps.refuse taken⟩
    · rename_i free
      exact ⟨same, keeps.accept free⟩

theorem mem_names_perform_iff (operation : Operation σ) (session : Session σ) (name : String) :
    name ∈ (perform host operation session).state.catalogue.names ↔
      name ∈ session.catalogue.names ∨ ∃ stage, operation = .register name stage := by
  cases operation with
  | register other stage =>
    rw [perform_register]
    split
    · rename_i taken
      refine ⟨.inl, ?_⟩
      rintro (mem | ⟨held, same⟩)
      · exact mem
      · cases same
        exact taken
    · simp [Entries.names, eq_comm]
  | _ =>
    rw [state_perform]
    simp

theorem mem_names_after_iff (operations : List (Operation σ)) (session : Session σ)
    (name : String) :
    name ∈ (after host operations session).catalogue.names ↔
      name ∈ session.catalogue.names ∨ ∃ stage, .register name stage ∈ operations := by
  induction operations generalizing session with
  | nil => simp [after]
  | cons operation rest ih =>
    refine (ih _).trans ?_
    rw [mem_names_perform_iff, or_assoc]
    simp [exists_or, eq_comm]

/-- However stages are registered in a session that had none, a registration is refused exactly if
one of the same name went before, and then changes nothing. The catalogue lists the names in the
order of their first registrations; it finds, contains, describes and does not miss the stages of
these first registrations, and no others. -/
theorem registrations_of_session (bench : Bench σ) (calls : List (String × Stage σ)) :
    let session := after host (calls.map .ofCall) ⟨[], bench⟩
    let catalogue := session.catalogue
    (∀ name stage,
      let ran := perform host (.register name stage) session
      (∀ fault, ran.answer = .error fault ↔
        name ∈ Entries.names calls ∧ fault = .stageTaken name) ∧
      (name ∈ Entries.names calls → ran.state = session ∧ ran.events = [])) ∧
      AreFirsts catalogue.names (Entries.names calls) ∧
      (∀ name stage, catalogue.find name = .ok stage ↔ IsFirstCall calls name stage) ∧
      (∀ name stage, IsFirstCall calls name stage → perform host (.find name) session =
        ⟨.ok (.stage name stage.description stage.logger), [], session⟩) ∧
      (∀ name fault, catalogue.find name = .error fault ↔
        name ∉ Entries.names calls ∧ fault = .stageMissing name) ∧
      (∀ name,
        (catalogue.has name = true ↔ name ∈ catalogue.names) ∧
        ((∃ stage, catalogue.find name = .ok stage) ↔ name ∈ catalogue.names) ∧
        (catalogue.missing [name] = [] ↔ name ∈ catalogue.names)) ∧
      List.Forall₂ (fun name line => ∃ stage, IsFirstCall calls name stage ∧
          line = name ++ ": " ++ stage.description ++ " (" ++ stage.logger ++ ")")
        catalogue.names catalogue.describe := by
  intro session catalogue
  obtain ⟨-, keeps⟩ : _ ∧ Keeps calls catalogue := keeps_after host calls bench
  refine ⟨fun name stage => ?_, keeps.firsts, fun _ _ => keeps.find_eq_ok_iff, ?_, ?_, ?_, ?_⟩
  · rw [perform_register]
    by_cases taken : name ∈ session.catalogue.names
    · have known : name ∈ Entries.names calls := keeps.mem_names_iff.mp taken
      rw [if_pos taken]
      simp [known, eq_comm]
    · have new : name ∉ Entries.names calls := mt keeps.mem_names_iff.mpr taken
      rw [if_neg taken]
      simp [new]
  · intro name stage first
    rw [perform_find, keeps.find_eq_ok_iff.mpr first]
    rfl
  · intro name fault
    rw [catalogue.find_eq_error_iff, keeps.mem_names_iff]
  · intro name
    refine ⟨Entries.has_iff, catalogue.exists_find_eq_ok_iff, ?_⟩
    rw [catalogue.missing_eq_nil_iff]
    simp
  · rw [Catalogue.describe, Entries.names, List.forall₂_map_left_iff, List.forall₂_map_right_iff,
      List.forall₂_same]
    rintro ⟨name, stage⟩ mem
    exact ⟨stage, (keeps.mem_iff name stage).mp mem, rfl⟩

end Session

end Rollout
