import Mathlib
import Rollout.Calendar

/-!
The order of digits that are run together.

A number that is padded to a width has as many digits as that, and the texts of such numbers have the
order of the numbers. Run together, numbers of fixed widths have the order of their row: where two
rows first differ, the texts differ too, and what stands before has the same length.
-/

set_option autoImplicit false
set_option relaxedAutoImplicit false

namespace Rollout

theorem order_iff_order {α β : Type} [LinearOrder α] [LinearOrder β] {a b : α} {c d : β}
    (less : a < b → c < d) (same : a = b → c = d) (more : b < a → d < c) :
    (c = d ↔ a = b) ∧ (c < d ↔ a < b) := by
  rcases lt_trichotomy a b with before | equal | after
  · have := less before
    exact ⟨iff_of_false this.ne before.ne, iff_of_true this before⟩
  · have := same equal
    exact ⟨iff_of_true this equal, iff_of_false this.not_lt equal.not_lt⟩
  · have := more after
    exact ⟨iff_of_false this.ne' after.ne', iff_of_false this.not_gt after.not_gt⟩

theorem append_lt_append_iff {α : Type} [LinearOrder α] {front front' : List α}
    (length : front.length = front'.length) (back back' : List α) :
    front ++ back < front' ++ back' ↔ front < front' ∨ front = front' ∧ back < back' := by
  induction front generalizing front' with
  | nil =>
    cases List.length_eq_zero_iff.mp length.symm
    simp
  | cons a front ih =>
    cases front' with
    | nil => cases length
    | cons b front' =>
      have rest := ih (Nat.succ.inj length)
      simp only [List.cons_append, List.cons_lt_cons_iff, rest, List.cons.injEq]
      tauto

namespace Calendar

/-! ### One number -/

theorem toList_padded (width n : Nat) :
    (padded width n).toList =
      List.replicate (width - (Nat.toDigits 10 n).length) '0' ++ Nat.toDigits 10 n :=
  String.toList_ofList

/-- A number fits into a width if it has no more digits than that. -/
structure Fits (width n : Nat) : Prop where
  positive : 0 < width
  bound : n < 10 ^ width

theorem length_padded {width n : Nat} (fits : Fits width n) : (padded width n).toList.length = width := by
  have few : (Nat.toDigits 10 n).length ≤ width :=
    (Nat.length_toDigits_le_iff (by decide) fits.positive).mpr fits.bound
  rw [toList_padded, List.length_append, List.length_replicate]
  omega

theorem padded_of_le {width n : Nat} (positive : 0 < width) (large : 10 ^ width ≤ n) :
    padded (width + 1) n = toString n := by
  have many : ¬(Nat.toDigits 10 n).length ≤ width := by
    rw [Nat.length_toDigits_le_iff (by decide) positive]
    exact large.not_gt
  have none : width + 1 - (Nat.toDigits 10 n).length = 0 := by omega
  rw [← String.toList_inj, toList_padded, none]
  exact String.toList_ofList.symm

theorem isDigit_of_mem_padded {width n : Nat} {c : Char} (mem : c ∈ (padded width n).toList) :
    c.isDigit = true := by
  rw [toList_padded] at mem
  rcases List.mem_append.mp mem with zero | digit
  · rw [List.eq_of_mem_replicate zero]
    decide
  · exact Nat.isDigit_of_mem_toDigits (by decide) le_rfl digit

theorem padded_succ (width n : Nat) :
    (padded (width + 2) n).toList =
      (padded (width + 1) (n / 10)).toList ++ [Nat.digitChar (n % 10)] := by
  rw [toList_padded, toList_padded]
  rcases Nat.lt_or_ge n 10 with small | large
  · have none : n / 10 = 0 := Nat.div_eq_of_lt small
    rw [none, Nat.toDigits_of_lt_base small, Nat.toDigits_zero, Nat.mod_eq_of_lt small,
      ← List.replicate_succ']
    rfl
  · have zeros (length : Nat) : width + 2 - (length + 1) = width + 1 - length := by omega
    rw [Nat.toDigits_of_base_le (by decide) large, List.length_append, List.length_singleton, zeros,
      List.append_assoc]

theorem digitChar_lt_iff {i j : Nat} (hi : i < 10) (hj : j < 10) :
    i.digitChar < j.digitChar ↔ i < j := by
  have all : ∀ i < 10, ∀ j < 10, i.digitChar < j.digitChar ↔ i < j := by decide
  exact all i hi j hj

theorem padded_lt_padded {width n k : Nat} (first : Fits width n) (second : Fits width k)
    (less : n < k) : (padded width n).toList < (padded width k).toList := by
  obtain ⟨width, rfl⟩ := Nat.exists_eq_add_one.mpr first.positive
  induction width generalizing n k with
  | zero =>
    have small : ∀ n, n < 10 → (padded 1 n).toList = [n.digitChar] := by decide
    rw [small n first.bound, small k second.bound]
    exact List.cons_lt_cons_iff.mpr (.inl ((digitChar_lt_iff first.bound second.bound).mpr less))
  | succ width ih =>
    have fits {n : Nat} (whole : Fits (width + 2) n) : Fits (width + 1) (n / 10) :=
      ⟨Nat.succ_pos width, Nat.div_lt_of_lt_mul (by
        have bound := whole.bound
        rw [Nat.pow_succ] at bound
        omega)⟩
    have length : (padded (width + 1) (n / 10)).toList.length =
        (padded (width + 1) (k / 10)).toList.length := by
      rw [length_padded (fits first), length_padded (fits second)]
    rw [padded_succ, padded_succ, append_lt_append_iff length]
    rcases Nat.lt_or_ge (n / 10) (k / 10) with before | after
    · exact .inl (ih before (fits first) (fits second))
    · have same : n / 10 = k / 10 := by omega
      refine .inr ⟨by rw [same], List.cons_lt_cons_iff.mpr (.inl ?_)⟩
      rw [digitChar_lt_iff (Nat.mod_lt n (by decide)) (Nat.mod_lt k (by decide))]
      omega

/-! ### Rows of numbers -/

/-- Numbers run together, each padded to its width. -/
def runTogether (widths row : List Nat) : List Char :=
  (List.zipWith (fun width n => (padded width n).toList) widths row).flatten

theorem runTogether_cons (width n : Nat) (widths row : List Nat) :
    runTogether (width :: widths) (n :: row) =
      (padded width n).toList ++ runTogether widths row := rfl

variable {widths row row' : List Nat}

theorem length_runTogether (fits : List.Forall₂ Fits widths row) :
    (runTogether widths row).length = widths.sum := by
  induction fits with
  | nil => rfl
  | cons here _ ih => rw [runTogether_cons, List.length_append, length_padded here, ih, List.sum_cons]

theorem isDigit_of_mem_runTogether {c : Char} (mem : c ∈ runTogether widths row) :
    c.isDigit = true := by
  obtain ⟨block, among, mem⟩ := List.mem_flatten.mp mem
  obtain ⟨i, bound, rfl⟩ := List.mem_iff_getElem.mp among
  rw [List.getElem_zipWith] at mem
  exact isDigit_of_mem_padded mem

theorem runTogether_lt_runTogether (first : List.Forall₂ Fits widths row)
    (second : List.Forall₂ Fits widths row') (less : row < row') :
    runTogether widths row < runTogether widths row' := by
  induction first generalizing row' with
  | nil =>
    cases second
    exact absurd less (lt_irrefl _)
  | @cons width n widths row here _ ih =>
    cases second with
    | @cons _ k _ row' there later =>
      have length : (padded width n).toList.length = (padded width k).toList.length := by
        rw [length_padded here, length_padded there]
      rw [runTogether_cons, runTogether_cons, append_lt_append_iff length]
      rcases List.cons_lt_cons_iff.mp less with smaller | ⟨rfl, rest⟩
      · exact .inl (padded_lt_padded here there smaller)
      · exact .inr ⟨rfl, ih later rest⟩

end Calendar

end Rollout
