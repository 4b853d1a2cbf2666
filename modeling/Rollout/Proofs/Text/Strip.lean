import Rollout.Text.Blank

/-!
Rows without the ends that are cut off.

What is left of a row stands between two ends of which all members are cut off, and neither its
first nor its last member is one of them. There is one way to divide a row like that.
-/

set_option autoImplicit false
set_option relaxedAutoImplicit false

namespace Rollout.Text

variable {α : Type} {p : α → Bool} {whole core : List α}

/-- A row is what is left of another one when the members that satisfy `p` are cut off both its
ends. -/
structure Strips (p : α → Bool) (whole core : List α) : Prop where
  ends : ∃ front back, whole = front ++ (core ++ back) ∧ (∀ a ∈ front, p a = true) ∧
    ∀ a ∈ back, p a = true
  first : ∀ a, core.head? = some a → p a = false
  last : ∀ a, core.getLast? = some a → p a = false

theorem dropWhile_of_head? {row : List α} (stays : ∀ a, row.head? = some a → p a = false) :
    row.dropWhile p = row := by
  cases row with
  | nil => rfl
  | cons a rest => simp [stays a rfl]

theorem head?_dropWhile (row : List α) : ∀ a, (row.dropWhile p).head? = some a → p a = false := by
  intro a first
  have stops := List.head?_dropWhile_not p row
  rw [first] at stops
  simpa using stops

theorem dropEndWhile_of_getLast? {row : List α} (stays : ∀ a, row.getLast? = some a → p a = false) :
    dropEndWhile p row = row := by
  have kept : row.reverse.dropWhile p = row.reverse :=
    dropWhile_of_head? fun a first => stays a (by simpa using first)
  rw [dropEndWhile, kept, List.reverse_reverse]

theorem dropEndWhile_append {front back : List α} (cut : ∀ a ∈ back, p a = true) :
    dropEndWhile p (front ++ back) = dropEndWhile p front := by
  unfold dropEndWhile
  rw [List.reverse_append, List.dropWhile_append_of_pos]
  simpa using cut

theorem dropEndWhile_append_back (p : α → Bool) (row : List α) :
    ∃ back, row = dropEndWhile p row ++ back ∧ ∀ a ∈ back, p a = true := by
  refine ⟨(row.reverse.takeWhile p).reverse, ?_, fun a mem => ?_⟩
  · rw [dropEndWhile, ← List.reverse_append, List.takeWhile_append_dropWhile, List.reverse_reverse]
  · exact List.all_eq_true.mp (List.all_takeWhile (p := p)) a (List.mem_reverse.mp mem)

theorem strips_iff : Strips p whole core ↔ core = stripWhile p whole := by
  constructor
  · rintro ⟨⟨front, back, rfl, cutFront, cutBack⟩, first, last⟩
    rw [stripWhile, List.dropWhile_append_of_pos cutFront]
    cases core with
    | nil =>
      rw [List.nil_append, ← List.append_nil back, List.dropWhile_append_of_pos cutBack]
      rfl
    | cons a rest =>
      have kept : (a :: rest ++ back).dropWhile p = a :: rest ++ back := by simp [first a rfl]
      rw [kept, dropEndWhile_append cutBack, dropEndWhile_of_getLast? last]
  · rintro rfl
    obtain ⟨back, kept, cut⟩ := dropEndWhile_append_back p (whole.dropWhile p)
    refine ⟨⟨whole.takeWhile p, back, ?_, ?_, cut⟩, ?_, ?_⟩
    · rw [stripWhile, ← kept, List.takeWhile_append_dropWhile]
    · exact List.all_eq_true.mp List.all_takeWhile
    · intro a first
      refine head?_dropWhile whole a ?_
      rw [kept]
      unfold stripWhile at first
      rw [List.head?_append, first]
      rfl
    · intro a last
      rw [stripWhile, dropEndWhile, List.getLast?_reverse] at last
      exact head?_dropWhile _ a last

end Rollout.Text
