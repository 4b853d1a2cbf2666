import Mathlib.Data.List.Basic
import Rollout.Path

/-!
Normal paths: those that are denoted by their own text.

The components of a text are its pieces between slashes that are neither empty nor a dot, so a path
is normal if its components are such pieces. The path that a text denotes is normal, and one normal
path seen from another is normal again.
-/

set_option autoImplicit false
set_option relaxedAutoImplicit false

namespace Rollout.Path

/-! ### Pieces -/

theorem pieces_eq_splitOn (cs : List Char) : pieces cs = cs.splitOn '/' := by
  induction cs with
  | nil => rfl
  | cons c cs ih =>
    rw [pieces, List.splitOn_cons_eq_if_modifyHead, ih]
    split
    · rfl
    · obtain ⟨piece, more, split⟩ := List.exists_cons_of_ne_nil (List.splitOn_ne_nil '/' cs)
      rw [split]
      rfl

theorem not_mem_of_mem_pieces {piece cs : List Char} (mem : piece ∈ pieces cs) : '/' ∉ piece := by
  induction cs generalizing piece with
  | nil =>
    cases List.mem_singleton.mp mem
    exact List.not_mem_nil
  | cons c cs ih =>
    obtain ⟨first, more, split⟩ : ∃ first more, pieces cs = first :: more := by
      rw [pieces_eq_splitOn]
      exact List.exists_cons_of_ne_nil (List.splitOn_ne_nil '/' cs)
    rw [split] at ih
    simp only [pieces, split] at mem
    by_cases slash : c = '/'
    · subst slash
      simp only [beq_self_eq_true, if_true] at mem
      rcases List.mem_cons.mp mem with rfl | later
      · exact List.not_mem_nil
      · exact ih later
    · simp only [beq_iff_eq, slash, if_false] at mem
      rcases List.mem_cons.mp mem with rfl | later
      · exact List.not_mem_cons_of_ne_of_not_mem (Ne.symm slash) (ih List.mem_cons_self)
      · exact ih (List.mem_cons_of_mem first later)

/-- A part that can stand between the slashes of a text and counts as a component. -/
structure IsPart (part : String) : Prop where
  counts : isComponent part.toList = true
  plain : '/' ∉ part.toList

theorem isComponent_iff {piece : List Char} :
    isComponent piece = true ↔ piece ≠ [] ∧ piece ≠ ['.'] := by
  simp [isComponent]

theorem isPart_of_mem_components {cs : List Char} {part : String} (mem : part ∈ components cs) :
    IsPart part := by
  obtain ⟨piece, kept, rfl⟩ := List.mem_map.mp mem
  obtain ⟨piece_mem, counts⟩ := List.mem_filter.mp kept
  refine ⟨?_, ?_⟩
  · rwa [String.toList_ofList]
  · rw [String.toList_ofList]
    exact not_mem_of_mem_pieces piece_mem

theorem components_intercalate {parts : List String} (made : ∀ part ∈ parts, IsPart part) :
    components ("/".intercalate parts).toList = parts := by
  cases parts with
  | nil => rfl
  | cons first more =>
    have whole : pieces ("/".intercalate (first :: more)).toList =
        (first :: more).map String.toList := by
      rw [pieces_eq_splitOn, String.toList_intercalate]
      refine List.splitOn_intercalate '/' (fun piece mem => ?_) (by simp)
      obtain ⟨part, part_mem, rfl⟩ := List.mem_map.mp mem
      exact (made part part_mem).plain
    have counted : ∀ piece ∈ (first :: more).map String.toList, isComponent piece = true := by
      intro piece mem
      obtain ⟨part, part_mem, rfl⟩ := List.mem_map.mp mem
      exact (made part part_mem).counts
    rw [components, whole, List.filter_eq_self.mpr counted, List.map_map]
    simp [Function.comp_def]

theorem components_append (root : Root) (cs : List Char) :
    components (root.text.toList ++ cs) = components cs := by
  cases root <;> rfl

theorem head?_intercalate_ne {parts : List String} (made : ∀ part ∈ parts, IsPart part) :
    ("/".intercalate parts).toList.head? ≠ some '/' := by
  cases parts with
  | nil => decide
  | cons first more =>
    obtain ⟨counts, plain⟩ := made first List.mem_cons_self
    obtain ⟨c, cs, spelled⟩ := List.exists_cons_of_ne_nil (isComponent_iff.mp counts).1
    have front : ("/".intercalate (first :: more)).toList.head? = some c := by
      cases more <;> simp [String.intercalate_cons_cons, spelled]
    rw [front]
    rintro ⟨rfl⟩
    exact plain (spelled ▸ List.mem_cons_self)

/-! ### Roots -/

theorem rootOf_eq_relative_iff {cs : List Char} : rootOf cs = .relative ↔ cs.head? ≠ some '/' := by
  cases cs with
  | nil => simp [rootOf]
  | cons c cs =>
    unfold rootOf
    split <;> simp_all

theorem rootOf_append (root : Root) {cs : List Char} (bare : cs.head? ≠ some '/') :
    rootOf (root.text.toList ++ cs) = root := by
  have start : ∀ more, cs ≠ '/' :: more := by
    rintro more rfl
    exact bare rfl
  cases root with
  | relative => exact rootOf_eq_relative_iff.mpr bare
  | absolute =>
    show rootOf ('/' :: cs) = .absolute
    unfold rootOf
    split <;> simp_all
  | doubled =>
    show rootOf ('/' :: '/' :: cs) = .doubled
    rw [rootOf]
    exact start

theorem isAbsolute_iff {p : Path} : p.isAbsolute = true ↔ p.root ≠ .relative := bne_iff_ne

theorem isAbsolute_ofString (text : String) :
    (ofString text).isAbsolute = true ↔ text.toList.head? = some '/' := by
  rw [isAbsolute_iff, ofString, Ne, rootOf_eq_relative_iff, not_not]

/-! ### Normal paths -/

/-- A path is denoted by its own text. -/
def IsNormal (p : Path) : Prop := ofString p.toString = p

instance (p : Path) : Decidable p.IsNormal := inferInstanceAs (Decidable (_ = _))

private theorem ofString_toString {p : Path} (made : ∀ part ∈ p.parts, IsPart part) :
    ofString p.toString = p := by
  have bare := head?_intercalate_ne made
  have parts := components_intercalate made
  unfold toString
  split
  · rename_i empty
    obtain ⟨root, parts⟩ := p
    obtain ⟨rfl, rfl⟩ := empty
    rfl
  · rw [ofString, String.toList_append, rootOf_append p.root bare, components_append, parts]

theorem isNormal_iff {p : Path} : p.IsNormal ↔ ∀ part ∈ p.parts, IsPart part := by
  constructor
  · intro normal part mem
    rw [← normal] at mem
    exact isPart_of_mem_components mem
  · exact ofString_toString

theorem isNormal_ofString (text : String) : (ofString text).IsNormal :=
  isNormal_iff.mpr fun _ mem => isPart_of_mem_components mem

/-! ### One path seen from another -/

theorem join_of_isAbsolute (p : Path) {q : Path} (rooted : q.isAbsolute = true) : p.join q = q :=
  if_pos rooted

theorem join_of_relative (p : Path) {q : Path} (rootless : q.isAbsolute = false) :
    p.join q = ⟨p.root, p.parts ++ q.parts⟩ := by
  rw [join, rootless]
  rfl

theorem isAbsolute_join (p q : Path) : (p.join q).isAbsolute = (p.isAbsolute || q.isAbsolute) := by
  cases rooted : q.isAbsolute with
  | true => rw [join_of_isAbsolute p rooted, rooted, Bool.or_true]
  | false => rw [join_of_relative p rooted, Bool.or_false, isAbsolute, isAbsolute]

theorem IsNormal.join {p q : Path} (first : p.IsNormal) (second : q.IsNormal) :
    (p.join q).IsNormal := by
  cases rooted : q.isAbsolute with
  | true => rwa [join_of_isAbsolute p rooted]
  | false =>
    rw [join_of_relative p rooted, isNormal_iff]
    intro part mem
    exact (List.mem_append.mp mem).elim (isNormal_iff.mp first part) (isNormal_iff.mp second part)

example : (Path.mk .doubled ["..", "a"]).IsNormal ∧ ¬(Path.mk .absolute ["a/b"]).IsNormal := by
  decide +kernel

end Rollout.Path
