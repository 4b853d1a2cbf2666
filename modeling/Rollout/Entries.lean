/-!
Ordered entries: a finite map from names to values that remembers the order in which its names came.

Setting a name that is present replaces its value in its old place; a new name goes to the end.
-/

set_option autoImplicit false
set_option relaxedAutoImplicit false

namespace Rollout

abbrev Entries (α : Type) := List (String × α)

namespace Entries

variable {α : Type}

def get? (name : String) : Entries α → Option α
  | [] => none
  | (key, value) :: rest => if key = name then some value else get? name rest

def has (name : String) (entries : Entries α) : Bool := (get? name entries).isSome

def put (name : String) (value : α) : Entries α → Entries α
  | [] => [(name, value)]
  | (key, old) :: rest =>
    if key = name then (key, value) :: rest else (key, old) :: put name value rest

def erase (name : String) : Entries α → Entries α
  | [] => []
  | (key, value) :: rest => if key = name then rest else (key, value) :: erase name rest

def names (entries : Entries α) : List String := entries.map (·.1)

/-- The first entries with those of the second put over them, one by one. -/
def overlay (entries extra : Entries α) : Entries α :=
  extra.foldl (fun acc entry => put entry.1 entry.2 acc) entries

theorem get?_put_self (name : String) (value : α) (entries : Entries α) :
    get? name (put name value entries) = some value := by
  induction entries with
  | nil => simp [put, get?]
  | cons entry rest ih =>
    by_cases h : entry.1 = name <;> simp [put, get?, h, ih]

theorem get?_put_of_ne {name other : String} (value : α) (entries : Entries α)
    (h : other ≠ name) : get? other (put name value entries) = get? other entries := by
  induction entries with
  | nil => simp [put, get?, Ne.symm h]
  | cons entry rest ih =>
    by_cases hk : entry.1 = name
    · simp [put, get?, hk, Ne.symm h]
    · by_cases ho : entry.1 = other
      · subst ho
        simp [put, get?, hk]
      · simp [put, get?, hk, ho, ih]

theorem get?_append (name : String) (front back : Entries α) :
    get? name (front ++ back) = (get? name front).or (get? name back) := by
  induction front with
  | nil => rfl
  | cons entry rest ih =>
    by_cases here : entry.1 = name
    · simp [get?, here]
    · simp [get?, here, ih]

theorem get?_eq_none_iff {name : String} {entries : Entries α} :
    get? name entries = none ↔ name ∉ names entries := by
  induction entries with
  | nil => simp [get?, names]
  | cons entry rest ih =>
    by_cases here : entry.1 = name
    · simp [get?, names, here]
    · simpa [get?, names, here, Ne.symm here] using ih

theorem has_iff {name : String} {entries : Entries α} :
    has name entries = true ↔ name ∈ names entries := by
  rw [has, ← Decidable.not_iff_not, Bool.not_eq_true, Option.isSome_eq_false_iff,
    Option.isNone_iff_eq_none, get?_eq_none_iff]

theorem get?_eq_some_iff {entries : Entries α} (distinct : (names entries).Nodup) {name : String}
    {value : α} : get? name entries = some value ↔ (name, value) ∈ entries := by
  induction entries with
  | nil => simp [get?]
  | cons entry rest ih =>
    obtain ⟨absent, others⟩ := List.nodup_cons.mp distinct
    by_cases here : entry.1 = name
    · subst here
      have alone : (entry.1, value) ∉ rest := fun mem =>
        absent (List.mem_map.mpr ⟨_, mem, rfl⟩)
      simp [get?, alone, Prod.ext_iff, eq_comm]
    · have other : (name, value) ≠ entry := fun same => here (congrArg Prod.fst same).symm
      simp [get?, here, other, ih others]

theorem put_of_not_mem {name : String} {entries : Entries α} (absent : name ∉ names entries)
    (value : α) : put name value entries = entries ++ [(name, value)] := by
  induction entries with
  | nil => rfl
  | cons entry rest ih =>
    obtain ⟨here, later⟩ : entry.1 ≠ name ∧ name ∉ names rest := by
      simpa [names, eq_comm] using absent
    simp [put, here, ih later]

theorem put_append_cons {name : String} {front : Entries α} (absent : name ∉ names front)
    (value old : α) (back : Entries α) :
    put name value (front ++ (name, old) :: back) = front ++ (name, value) :: back := by
  induction front with
  | nil => simp [put]
  | cons entry rest ih =>
    obtain ⟨here, later⟩ : entry.1 ≠ name ∧ name ∉ names rest := by
      simpa [names, eq_comm] using absent
    simp [put, here, ih later]

theorem mem_put {name : String} {value : α} {entries : Entries α} {entry : String × α}
    (mem : entry ∈ put name value entries) : entry = (name, value) ∨ entry ∈ entries := by
  induction entries with
  | nil => exact .inl (List.mem_singleton.mp mem)
  | cons first rest ih =>
    by_cases same : first.1 = name
    · simp only [put, same, if_true, List.mem_cons] at mem
      exact mem.imp_right (List.mem_cons_of_mem first)
    · simp only [put, same, if_false, List.mem_cons] at mem
      rcases mem with rfl | mem
      · exact .inr List.mem_cons_self
      · exact (ih mem).imp_right (List.mem_cons_of_mem first)

theorem names_put (name : String) (value : α) (entries : Entries α) :
    names (put name value entries) =
      if name ∈ names entries then names entries else names entries ++ [name] := by
  induction entries with
  | nil => rfl
  | cons first rest ih =>
    by_cases same : first.1 = name
    · simp [put, names, same]
    · simp only [names] at ih
      by_cases later : name ∈ rest.map (·.1) <;> simp [put, names, same, Ne.symm same, ih, later]

theorem names_prefix_put (name : String) (value : α) (entries : Entries α) :
    names entries <+: names (put name value entries) := by
  rw [names_put]
  split
  · exact List.prefix_rfl
  · exact List.prefix_append ..

theorem nodup_names_put (name : String) (value : α) {entries : Entries α}
    (distinct : (names entries).Nodup) : (names (put name value entries)).Nodup := by
  rw [names_put]
  split
  · exact distinct
  · rename_i absent
    have fresh : ∀ other ∈ names entries, other ≠ name := by
      rintro other mem rfl
      exact absent mem
    simpa [List.nodup_append, distinct] using fresh

theorem get?_overlay {extra : Entries α} (distinct : (names extra).Nodup) (name : String)
    (entries : Entries α) :
    get? name (overlay entries extra) = (get? name extra).or (get? name entries) := by
  induction extra generalizing entries with
  | nil => rfl
  | cons entry rest ih =>
    obtain ⟨absent, others⟩ := List.nodup_cons.mp distinct
    refine (ih others (put entry.1 entry.2 entries)).trans ?_
    by_cases here : entry.1 = name
    · subst here
      rw [get?_eq_none_iff.mpr absent, get?_put_self]
      simp [get?]
    · rw [get?_put_of_ne _ _ (Ne.symm here)]
      simp [get?, here]

example : put "b" 3 [("a", 1), ("b", 2)] = [("a", 1), ("b", 3)] := rfl

end Entries

end Rollout
