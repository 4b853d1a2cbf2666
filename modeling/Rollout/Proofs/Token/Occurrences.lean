import Rollout.Token

/-!
Tokens wherever they stand.

A token that is found leaves no room for another one inside it, so the search that goes on behind
each token finds all that stand anywhere in the text. A text names a program exactly if one token
stands in it, and its id is not blank.
-/

set_option autoImplicit false
set_option relaxedAutoImplicit false

namespace Rollout.Token

theorem cut?_eq_some_iff {start cs rest : List Char} :
    cut? start cs = some rest ↔ cs = start ++ rest := by
  induction start generalizing cs with
  | nil => simp [cut?]
  | cons p ps ih =>
    cases cs with
    | nil => simp [cut?]
    | cons c cs =>
      by_cases same : p = c
      · simp [cut?, same, ih]
      · simp [cut?, same, Ne.symm same]

theorem value?_eq_some_iff {cs value after : List Char} :
    value? cs = some (value, after) ↔
      cs = value ++ closeBrace :: after ∧ openBrace ∉ value ∧ closeBrace ∉ value := by
  induction cs generalizing value with
  | nil => simp [value?]
  | cons c cs ih =>
    by_cases closes : c = closeBrace
    · subst closes
      cases value with
      | nil => simp [value?, eq_comm]
      | cons v vs =>
        simp only [value?, if_true, List.cons_append, List.cons.injEq]
        constructor
        · intro h
          simp at h
        · rintro ⟨⟨rfl, -⟩, -, absent⟩
          exact absurd List.mem_cons_self absent
    · by_cases opens : c = openBrace
      · subst opens
        cases value with
        | nil => simp [value?, closes]
        | cons v vs =>
          simp only [value?, closes, if_false, if_true, List.cons_append, List.cons.injEq]
          constructor
          · intro h
            simp at h
          · rintro ⟨⟨rfl, -⟩, absent, -⟩
            exact absurd List.mem_cons_self absent
      · simp only [value?, closes, opens, if_false, Option.map_eq_some_iff, Prod.exists,
          Prod.mk.injEq]
        constructor
        · rintro ⟨vs, rest, found, rfl, rfl⟩
          obtain ⟨rfl, noOpen, noClose⟩ := ih.mp found
          refine ⟨rfl, ?_, ?_⟩
          · simpa [Ne.symm opens] using noOpen
          · simpa [Ne.symm closes] using noClose
        · rintro ⟨split, noOpen, noClose⟩
          cases value with
          | nil => exact absurd (List.cons.inj split).1 closes
          | cons v vs =>
            obtain ⟨rfl, rest⟩ := List.cons.inj split
            simp only [List.mem_cons, not_or] at noOpen noClose
            exact ⟨vs, after, ih.mpr ⟨rest, noOpen.2, noClose.2⟩, rfl, rfl⟩

theorem head?_eq_some_iff {cs value after : List Char} :
    head? cs = some (value, after) ↔
      cs = opening ++ (value ++ closeBrace :: after) ∧ openBrace ∉ value ∧ closeBrace ∉ value := by
  simp only [head?, Option.bind_eq_some_iff, cut?_eq_some_iff, value?_eq_some_iff]
  constructor
  · rintro ⟨rest, rfl, rfl, free⟩
    exact ⟨rfl, free⟩
  · rintro ⟨rfl, free⟩
    exact ⟨_, rfl, rfl, free⟩

private theorem opening_eq : opening = openBrace :: opening.tail := by decide

private theorem openBrace_not_mem_opening_tail : openBrace ∉ opening.tail := by decide

private theorem head?_cons_of_ne {c : Char} (cs : List Char) (plain : c ≠ openBrace) :
    head? (c :: cs) = none := by
  cases found : head? (c :: cs) with
  | none => rfl
  | some pair =>
    obtain ⟨split, -⟩ := head?_eq_some_iff.mp (show _ = some (pair.1, pair.2) from found)
    rw [opening_eq, List.cons_append] at split
    exact absurd (List.cons.inj split).1 plain

theorem occurrences_append_of_not_mem {front : List Char} (plain : openBrace ∉ front)
    (back : List Char) : occurrences (front ++ back) = occurrences back := by
  induction front with
  | nil => rfl
  | cons c cs ih =>
    simp only [List.mem_cons, not_or] at plain
    rw [List.cons_append, occurrences, head?_cons_of_ne _ (Ne.symm plain.1), ih plain.2]
    rfl

theorem occurrences_inside {c : Char} {cs value after : List Char}
    (found : head? (c :: cs) = some (value, after)) : occurrences cs = occurrences after := by
  obtain ⟨split, noOpen, -⟩ := head?_eq_some_iff.mp found
  rw [opening_eq, List.cons_append] at split
  have inside : cs = (opening.tail ++ value ++ [closeBrace]) ++ after := by
    rw [(List.cons.inj split).2]
    simp
  rw [inside]
  refine occurrences_append_of_not_mem ?_ after
  simp only [List.mem_append, List.mem_singleton, not_or]
  exact ⟨⟨openBrace_not_mem_opening_tail, noOpen⟩, by decide⟩

theorem scan_eq_occurrences (cs : List Char) : scan cs = occurrences cs := by
  fun_induction scan cs with
  | case1 => rfl
  | case2 c cs value after found ih =>
    rw [occurrences, found, ih, occurrences_inside found]
    rfl
  | case3 c cs missing ih =>
    rw [occurrences, missing, ih]
    rfl

def render (id : List Char) : List Char := opening ++ (id ++ [closeBrace])

theorem render_append (id after : List Char) :
    render id ++ after = opening ++ (id ++ closeBrace :: after) := by
  simp [render]

theorem render_eq_cons (id : List Char) :
    render id = openBrace :: (opening.tail ++ (id ++ [closeBrace])) := by
  rw [render, opening_eq]
  rfl

private theorem openBrace_not_mem_of_render {front back id : List Char} (noOpen : openBrace ∉ id)
    (split : render id = front ++ openBrace :: back) : front = [] := by
  cases front with
  | nil => rfl
  | cons c front =>
    rw [render_eq_cons, List.cons_append] at split
    have member : openBrace ∈ opening.tail ++ (id ++ [closeBrace]) := by
      rw [(List.cons.inj split).2]
      simp
    simp only [List.mem_append, List.mem_singleton, noOpen, openBrace_not_mem_opening_tail,
      false_or] at member
    exact absurd member (by decide)

theorem head?_eq_some_iff_render {cs id after : List Char} :
    head? cs = some (id, after) ↔
      cs = render id ++ after ∧ openBrace ∉ id ∧ closeBrace ∉ id := by
  rw [head?_eq_some_iff, render_append]

private theorem head?_append_openBrace {front : List Char} (before : front ≠ [])
    (back : List Char) :
    (head? (front ++ openBrace :: back)).map (·.1) = (head? front).map (·.1) := by
  cases found : head? (front ++ openBrace :: back) with
  | some pair =>
    obtain ⟨id, after⟩ := pair
    obtain ⟨split, noOpen, noClose⟩ := head?_eq_some_iff_render.mp found
    have inFront : ∃ rest, front = render id ++ rest := by
      rcases List.append_eq_append_iff.mp split with ⟨inner, token, rest⟩ | ⟨inner, whole, -⟩
      · cases inner with
        | nil => exact ⟨[], by rw [List.append_nil, token, List.append_nil]⟩
        | cons c inner =>
          obtain ⟨rfl, -⟩ := List.cons.inj rest
          exact absurd (openBrace_not_mem_of_render noOpen token) before
      · exact ⟨inner, whole⟩
    obtain ⟨rest, whole⟩ := inFront
    rw [head?_eq_some_iff_render.mpr ⟨whole, noOpen, noClose⟩]
    rfl
  | none =>
    cases alone : head? front with
    | none => rfl
    | some pair =>
      obtain ⟨id, after⟩ := pair
      obtain ⟨rfl, free⟩ := head?_eq_some_iff_render.mp alone
      rw [head?_eq_some_iff_render.mpr ⟨List.append_assoc .., free⟩] at found
      cases found

private theorem occurrences_cons (c : Char) (cs : List Char) :
    occurrences (c :: cs) = ((head? (c :: cs)).map (·.1)).toList ++ occurrences cs := rfl

theorem occurrences_append_openBrace (front back : List Char) :
    occurrences (front ++ openBrace :: back) =
      occurrences front ++ occurrences (openBrace :: back) := by
  induction front with
  | nil => rfl
  | cons c cs ih =>
    have same := head?_append_openBrace (List.cons_ne_nil c cs) back
    rw [List.cons_append] at same
    rw [List.cons_append, occurrences_cons, ih, same, occurrences_cons c cs, List.append_assoc]

theorem occurrences_around {id : List Char} (noOpen : openBrace ∉ id) (noClose : closeBrace ∉ id)
    (front back : List Char) :
    occurrences (front ++ (render id ++ back)) =
      occurrences front ++ id :: occurrences back := by
  have found : head? (render id ++ back) = some (id, back) :=
    head?_eq_some_iff_render.mpr ⟨rfl, noOpen, noClose⟩
  rw [render_eq_cons, List.cons_append] at found ⊢
  rw [occurrences_append_openBrace, occurrences, found, occurrences_inside found]
  rfl

/-- A text names a program if one token stands in it, and the id of that is not blank. -/
def Names (text id : String) : Prop :=
  occurrences text.toList = [id.toList] ∧ Text.isBlankText id = false

theorem extract_eq_ok_iff {text id : String} : extract text = .ok id ↔ Names text id := by
  unfold extract Names
  rw [scan_eq_occurrences]
  match occurrences text.toList with
  | [] => simp
  | [value] =>
    simp only [List.cons.injEq, and_true]
    cases blank : value.all Text.isBlank with
    | true =>
      simp only [if_true, reduceCtorEq, false_iff, not_and]
      rintro rfl
      simp [Text.isBlankText, blank]
    | false =>
      simp only [Bool.false_eq_true, if_false, Except.ok.injEq]
      constructor
      · rintro rfl
        simp [Text.isBlankText, blank]
      · rintro ⟨rfl, -⟩
        exact String.ofList_toList
  | first :: second :: more => simp

theorem Names.unique {text id other : String} (one : Names text id) (two : Names text other) :
    id = other := by
  have same : [id.toList] = [other.toList] := one.1.symm.trans two.1
  exact String.toList_inj.mp (List.cons.inj same).1

end Rollout.Token
