import Mathlib.Data.List.Perm.Basic
import Rollout.Catalogue

/-!
Requests for stages, resolved against a catalogue.

A request resolves exactly if every name in it has a stage, and then to its first occurrences in
their order; these are one row and no other. A request that does not resolve is answered with all
of its names that have no stage, repeats included.
-/

set_option autoImplicit false
set_option relaxedAutoImplicit false

namespace Rollout

namespace Catalogue

/-- The first occurrences in a request: its names, each of them once, in the order of their first
places. -/
structure AreFirsts (names requested : List String) : Prop where
  distinct : names.Nodup
  mem_iff (name : String) : name ∈ names ↔ name ∈ requested
  ordered : names.Pairwise fun name other => requested.idxOf name < requested.idxOf other

namespace AreFirsts

variable {names requested : List String}

theorem nil : AreFirsts [] [] := ⟨List.nodup_nil, fun _ => Iff.rfl, List.Pairwise.nil⟩

theorem cons (name : String) (firsts : AreFirsts names requested) :
    AreFirsts (name :: names.filter (· != name)) (name :: requested) where
  distinct := List.nodup_cons.mpr ⟨by simp, firsts.distinct.filter _⟩
  mem_iff other := by
    by_cases same : other = name
    · simp [same]
    · simp [same, firsts.mem_iff]
  ordered := by
    have apart : ∀ other ∈ names.filter (· != name), name ≠ other := fun other mem =>
      (bne_iff_ne.mp (List.mem_filter.mp mem).2).symm
    refine List.pairwise_cons.mpr ⟨fun other mem => ?_, ?_⟩
    · rw [List.idxOf_cons_self, List.idxOf_cons_ne _ (apart other mem)]
      exact Nat.succ_pos _
    · refine (firsts.ordered.filter _).imp_of_mem fun {one other} memOne memOther before => ?_
      rw [List.idxOf_cons_ne _ (apart one memOne), List.idxOf_cons_ne _ (apart other memOther)]
      exact Nat.succ_lt_succ before

theorem append_of_subset {extra : List String} (firsts : AreFirsts names requested)
    (known : ∀ name ∈ extra, name ∈ requested) : AreFirsts names (requested ++ extra) where
  distinct := firsts.distinct
  mem_iff name := by
    rw [firsts.mem_iff, List.mem_append]
    exact ⟨.inl, fun mem => mem.elim id (known name)⟩
  ordered := by
    refine firsts.ordered.imp_of_mem fun {one other} memOne memOther before => ?_
    rw [List.idxOf_append_of_mem ((firsts.mem_iff one).mp memOne),
      List.idxOf_append_of_mem ((firsts.mem_iff other).mp memOther)]
    exact before

theorem concat {name : String} (firsts : AreFirsts names requested) (new : name ∉ requested) :
    AreFirsts (names ++ [name]) (requested ++ [name]) where
  distinct := by
    have apart : ∀ other ∈ names, other ≠ name := by
      rintro other mem rfl
      exact new ((firsts.mem_iff _).mp mem)
    simpa [List.nodup_append, firsts.distinct] using apart
  mem_iff other := by simp [firsts.mem_iff]
  ordered := by
    have earlier : ∀ other ∈ names,
        (requested ++ [name]).idxOf other = requested.idxOf other := fun other mem =>
      List.idxOf_append_of_mem ((firsts.mem_iff other).mp mem)
    refine List.pairwise_append.mpr ⟨?_, List.pairwise_singleton .., fun other mem last same => ?_⟩
    · refine firsts.ordered.imp_of_mem fun {one other} memOne memOther before => ?_
      rwa [earlier one memOne, earlier other memOther]
    · obtain rfl := List.mem_singleton.mp same
      rw [earlier other mem, List.idxOf_append_of_notMem new]
      exact Nat.lt_add_right _ (List.idxOf_lt_length_iff.mpr ((firsts.mem_iff other).mp mem))

theorem unique {others : List String} (firsts : AreFirsts names requested)
    (alike : AreFirsts others requested) : names = others := by
  -- Both are the same names, sorted by their first places.
  have same : names.Perm others := by
    refine (List.perm_ext_iff_of_nodup firsts.distinct alike.distinct).mpr fun name => ?_
    rw [firsts.mem_iff, alike.mem_iff]
  refine same.eq_of_pairwise ?_ firsts.ordered alike.ordered
  exact fun _ _ _ _ before after => absurd before (Nat.lt_asymm after)

theorem of_nodup (distinct : requested.Nodup) : AreFirsts requested requested := by
  induction requested with
  | nil => exact nil
  | cons name rest ih =>
    obtain ⟨absent, others⟩ := List.nodup_cons.mp distinct
    have whole : rest.filter (· != name) = rest := by
      refine List.filter_eq_self.mpr fun other mem => bne_iff_ne.mpr ?_
      rintro rfl
      exact absent mem
    simpa only [whole] using (ih others).cons name

end AreFirsts

theorem areFirsts_firsts (requested : List String) : AreFirsts (firsts requested) requested := by
  induction requested with
  | nil => exact .nil
  | cons name rest ih => exact ih.cons name

variable {σ : Type} (catalogue : Catalogue σ) {requested : List String}

theorem missing_eq (requested : List String) :
    catalogue.missing requested = requested.filter (· ∉ catalogue.names) := by
  refine List.filter_congr fun name _ => ?_
  rw [Bool.eq_iff_iff]
  simp [← Entries.has_iff]

theorem missing_eq_nil_iff :
    catalogue.missing requested = [] ↔ ∀ name ∈ requested, name ∈ catalogue.names := by
  simp [missing_eq]

theorem resolve_of_complete (complete : ∀ name ∈ requested, name ∈ catalogue.names) :
    catalogue.resolve requested = .ok (firsts requested) := by
  rw [resolve, catalogue.missing_eq_nil_iff.mpr complete]

theorem resolve_of_incomplete (incomplete : ¬∀ name ∈ requested, name ∈ catalogue.names) :
    catalogue.resolve requested =
      .error (.stagesUnknown (requested.filter (· ∉ catalogue.names))) := by
  have unknown := mt catalogue.missing_eq_nil_iff.mp incomplete
  rw [resolve, ← missing_eq]
  split
  · rename_i none
    exact absurd none unknown
  · rfl

theorem resolve_eq_error_iff {fault : Fault} :
    catalogue.resolve requested = .error fault ↔
      (∃ name ∈ requested, name ∉ catalogue.names) ∧
        fault = .stagesUnknown (requested.filter (· ∉ catalogue.names)) := by
  by_cases complete : ∀ name ∈ requested, name ∈ catalogue.names
  · rw [catalogue.resolve_of_complete complete]
    constructor
    · intro refused
      cases refused
    · rintro ⟨⟨name, mem, absent⟩, -⟩
      exact absurd (complete name mem) absent
  · rw [catalogue.resolve_of_incomplete complete]
    have absent : ∃ name ∈ requested, name ∉ catalogue.names := by simpa using complete
    simp only [Except.error.injEq, absent, true_and]
    exact eq_comm

theorem resolve_eq_ok_iff {names : List String} :
    catalogue.resolve requested = .ok names ↔
      (∀ name ∈ requested, name ∈ catalogue.names) ∧ AreFirsts names requested := by
  by_cases complete : ∀ name ∈ requested, name ∈ catalogue.names
  · have one : firsts requested = names ↔ AreFirsts names requested :=
      ⟨fun same => same ▸ areFirsts_firsts requested, (areFirsts_firsts requested).unique⟩
    rw [catalogue.resolve_of_complete complete, Except.ok.injEq, one]
    exact ⟨fun firsts => ⟨complete, firsts⟩, And.right⟩
  · rw [catalogue.resolve_of_incomplete complete]
    exact ⟨nofun, fun resolves => absurd resolves.1 complete⟩

/-- A request in which every name has a stage resolves to its first occurrences; any other is
refused with its names that have none, as often as they stand in it. So what is resolved resolves to
itself, as does a request without repeats, and names that are repeated at the end change nothing. -/
theorem resolve_of_request (catalogue : Catalogue σ) (requested : List String) :
    let unknown := requested.filter (· ∉ catalogue.names)
    (∀ fault, catalogue.resolve requested = .error fault ↔
      (∃ name ∈ requested, name ∉ catalogue.names) ∧ fault = .stagesUnknown unknown) ∧
      (Fault.stagesUnknown unknown).message =
        "Unknown stages requested: " ++ ", ".intercalate unknown ∧
      (∀ names, catalogue.resolve requested = .ok names ↔
        (∀ name ∈ requested, name ∈ catalogue.names) ∧ AreFirsts names requested) ∧
      ∀ names, catalogue.resolve requested = .ok names →
        catalogue.resolve names = .ok names ∧
          (requested.Nodup → names = requested) ∧
          ∀ extra, (∀ name ∈ extra, name ∈ requested) →
            catalogue.resolve (requested ++ extra) = .ok names := by
  intro unknown
  refine ⟨fun fault => catalogue.resolve_eq_error_iff, rfl,
    fun names => catalogue.resolve_eq_ok_iff, fun names resolved => ?_⟩
  obtain ⟨complete, firsts⟩ := catalogue.resolve_eq_ok_iff.mp resolved
  refine ⟨?_, fun distinct => firsts.unique (.of_nodup distinct), fun extra known => ?_⟩
  · have kept : ∀ name ∈ names, name ∈ catalogue.names := fun name mem =>
      complete name ((firsts.mem_iff name).mp mem)
    exact catalogue.resolve_eq_ok_iff.mpr ⟨kept, .of_nodup firsts.distinct⟩
  · have grown : ∀ name ∈ requested ++ extra, name ∈ catalogue.names := fun name mem =>
      complete name ((List.mem_append.mp mem).elim id (known name))
    exact catalogue.resolve_eq_ok_iff.mpr ⟨grown, firsts.append_of_subset known⟩

end Catalogue

end Rollout
