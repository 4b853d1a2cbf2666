import Rollout.Proofs.Catalogue.Resolution

/-!
Catalogues that calls to register stages have filled.

A catalogue keeps the first registration of each name. A call under a name that is taken is
refused, so the names stand in the order in which they were first registered, and each of them keeps
the stage that it was first registered with.
-/

set_option autoImplicit false
set_option relaxedAutoImplicit false

namespace Rollout

namespace Catalogue

variable {σ : Type}

/-- Among calls to register stages, the first call of a name registers a stage. -/
def IsFirstCall (calls : List (String × Stage σ)) (name : String) (stage : Stage σ) : Prop :=
  ∃ before later, calls = before ++ (name, stage) :: later ∧ name ∉ Entries.names before

theorem isFirstCall_concat_iff {calls : List (String × Stage σ)} {name other : String}
    {stage added : Stage σ} :
    IsFirstCall (calls ++ [(other, added)]) name stage ↔
      IsFirstCall calls name stage ∨
        other ∉ Entries.names calls ∧ name = other ∧ stage = added := by
  constructor
  · rintro ⟨before, later, split, first⟩
    -- The call is the last one, or it stands among the others.
    rcases List.eq_nil_or_concat later with rfl | ⟨others, last, rfl⟩
    · obtain ⟨rfl, same⟩ := List.append_inj' split rfl
      cases same
      exact .inr ⟨first, rfl, rfl⟩
    · rw [List.concat_eq_append, ← List.cons_append, ← List.append_assoc] at split
      obtain ⟨rfl, -⟩ := List.append_inj' split rfl
      exact .inl ⟨before, others, rfl, first⟩
  · rintro (⟨before, later, rfl, first⟩ | ⟨first, rfl, rfl⟩)
    · exact ⟨before, later ++ [(other, added)], by simp, first⟩
    · exact ⟨calls, [], rfl, first⟩

/-- A catalogue keeps the first registrations among calls: its names in the order of the first
calls, each with the stage of its first call. -/
structure Keeps (calls : List (String × Stage σ)) (catalogue : Catalogue σ) : Prop where
  firsts : AreFirsts catalogue.names (Entries.names calls)
  mem_iff (name : String) (stage : Stage σ) :
    (name, stage) ∈ catalogue ↔ IsFirstCall calls name stage

namespace Keeps

variable {calls : List (String × Stage σ)} {catalogue : Catalogue σ} {name : String}
  {stage : Stage σ}

theorem nil : Keeps [] ([] : Catalogue σ) where
  firsts := .nil
  mem_iff name stage := by simp [IsFirstCall]

theorem mem_names_iff (keeps : Keeps calls catalogue) :
    name ∈ catalogue.names ↔ name ∈ Entries.names calls := keeps.firsts.mem_iff name

theorem refuse (keeps : Keeps calls catalogue) (taken : name ∈ catalogue.names) :
    Keeps (calls ++ [(name, stage)]) catalogue where
  firsts := by
    have known : ∀ other ∈ [name], other ∈ Entries.names calls := by
      simpa using keeps.mem_names_iff.mp taken
    simpa [Entries.names] using keeps.firsts.append_of_subset known
  mem_iff other held := by
    rw [keeps.mem_iff, isFirstCall_concat_iff, ← keeps.mem_names_iff]
    simp [taken]

theorem accept (keeps : Keeps calls catalogue) (free : name ∉ catalogue.names) :
    Keeps (calls ++ [(name, stage)]) (catalogue ++ [(name, stage)]) where
  firsts := by
    simpa [Entries.names] using keeps.firsts.concat (mt keeps.mem_names_iff.mpr free)
  mem_iff other held := by
    rw [List.mem_append, keeps.mem_iff, isFirstCall_concat_iff, ← keeps.mem_names_iff]
    simp [free]

theorem find_eq_ok_iff (keeps : Keeps calls catalogue) :
    catalogue.find name = .ok stage ↔ IsFirstCall calls name stage := by
  rw [← keeps.mem_iff, ← Entries.get?_eq_some_iff keeps.firsts.distinct, find]
  cases catalogue.get? name <;> simp

end Keeps

section Lookups

variable (catalogue : Catalogue σ) {name : String}

theorem register_eq (name : String) (stage : Stage σ) :
    catalogue.register name stage =
      if name ∈ catalogue.names then .error (.stageTaken name)
      else .ok (catalogue ++ [(name, stage)]) := by
  simp only [register, Entries.has_iff]

theorem find_eq_error_iff {fault : Fault} :
    catalogue.find name = .error fault ↔ name ∉ catalogue.names ∧ fault = .stageMissing name := by
  rw [← Entries.get?_eq_none_iff, find]
  cases catalogue.get? name <;> simp [eq_comm]

theorem exists_find_eq_ok_iff :
    (∃ stage, catalogue.find name = .ok stage) ↔ name ∈ catalogue.names := by
  rw [← Entries.has_iff, Entries.has, find]
  cases catalogue.get? name <;> simp

end Lookups

end Catalogue

end Rollout
