import Mathlib.Data.Set.Card
import Rollout.Proofs.Token.Occurrences
import Rollout.Stage

/-!
The places at which tokens stand.

A token stands at a place of a text if the text goes on there with the opening, an id without braces
and the closing brace. The search that goes on behind each token meets every such place once, from
left to right, so how many places there are, and what stands at the only one, decides what is made
of an output.
-/

set_option autoImplicit false
set_option relaxedAutoImplicit false

namespace Rollout

namespace Token

/-- A token with an id stands at a place of a text. -/
def StandsAt (text : List Char) (place : Nat) (id : List Char) : Prop :=
  ∃ after, text.drop place = render id ++ after ∧ openBrace ∉ id ∧ closeBrace ∉ id

def places (text : List Char) : Set Nat := {place | ∃ id, StandsAt text place id}

theorem standsAt_iff_head? {text id : List Char} {place : Nat} :
    StandsAt text place id ↔ ∃ after, head? (text.drop place) = some (id, after) := by
  simp only [StandsAt, head?_eq_some_iff_render]

private theorem not_standsAt_nil (place : Nat) (value : List Char) : ¬ StandsAt [] place value := by
  rw [standsAt_iff_head?, List.drop_nil]
  rintro ⟨after, found⟩
  have := length_head? found
  simp at this

/-- A row lists the tokens of a text: each of them once, from left to right, with its place. -/
structure Lists (row : List (Nat × List Char)) (text : List Char) : Prop where
  ascending : row.Pairwise fun one two => one.1 < two.1
  mem_iff : ∀ place value, (place, value) ∈ row ↔ StandsAt text place value

private theorem Lists.cons {row : List (Nat × List Char)} {cs : List Char} (lists : Lists row cs)
    (c : Char) :
    Lists (((head? (c :: cs)).map fun found => (0, found.1)).toList ++
      row.map fun entry => (entry.1 + 1, entry.2)) (c :: cs) := by
  obtain ⟨ascending, mem_iff⟩ := lists
  constructor
  · rw [List.pairwise_append]
    refine ⟨by cases head? (c :: cs) <;> simp, ?_, ?_⟩
    · exact List.pairwise_map.mpr (ascending.imp fun order => by simpa using order)
    · rintro first atStart later behind
      obtain ⟨found, -, rfl⟩ : ∃ found, head? (c :: cs) = some found ∧ (0, found.1) = first := by
        simpa using atStart
      obtain ⟨entry, -, rfl⟩ := List.mem_map.mp behind
      simp
  · intro place value
    cases place with
    | zero => simp [standsAt_iff_head?]
    | succ place =>
      have shifted : StandsAt (c :: cs) (place + 1) value ↔ StandsAt cs place value := Iff.rfl
      rw [shifted, ← mem_iff]
      simp

theorem exists_lists_scan (text : List Char) :
    ∃ row, Lists row text ∧ row.map (·.2) = scan text := by
  rw [scan_eq_occurrences]
  induction text with
  | nil =>
    refine ⟨[], ⟨.nil, fun place value => ?_⟩, rfl⟩
    simpa using not_standsAt_nil place value
  | cons c cs ih =>
    obtain ⟨row, lists, values⟩ := ih
    refine ⟨_, lists.cons c, ?_⟩
    rw [List.map_append, List.map_map]
    refine congr (congrArg _ ?_) values
    cases head? (c :: cs) <;> rfl

private theorem Lists.coe_toFinset {row : List (Nat × List Char)} {text : List Char}
    (lists : Lists row text) : ((row.map (·.1)).toFinset : Set Nat) = places text := by
  ext place
  simp [places, ← lists.mem_iff]

private theorem Lists.ncard_places {row : List (Nat × List Char)} {text : List Char}
    (lists : Lists row text) : (places text).ncard = row.length := by
  have distinct : (row.map (·.1)).Nodup :=
    List.pairwise_map.mpr (lists.ascending.imp fun order => Nat.ne_of_lt order)
  rw [← lists.coe_toFinset, Set.ncard_coe_finset, List.toFinset_card_of_nodup distinct,
    List.length_map]

theorem length_scan (text : List Char) : (scan text).length = (places text).ncard := by
  obtain ⟨row, lists, values⟩ := exists_lists_scan text
  rw [← values, List.length_map, lists.ncard_places]

theorem scan_eq_nil_iff {text : List Char} : scan text = [] ↔ places text = ∅ := by
  obtain ⟨row, lists, values⟩ := exists_lists_scan text
  rw [← values, ← lists.coe_toFinset, Finset.coe_eq_empty, List.toFinset_eq_empty_iff,
    List.map_eq_nil_iff, List.map_eq_nil_iff]

theorem places_nonempty_iff {text : List Char} :
    (places text).Nonempty ↔ occurrences text ≠ [] := by
  rw [Set.nonempty_iff_ne_empty, Ne, ← scan_eq_nil_iff, scan_eq_occurrences]

theorem scan_eq_singleton_iff {text value : List Char} :
    scan text = [value] ↔ ∃ place, places text = {place} ∧ StandsAt text place value := by
  obtain ⟨row, lists, values⟩ := exists_lists_scan text
  constructor
  · intro single
    rw [← values] at single
    obtain ⟨⟨place, id⟩, rfl, rfl⟩ := List.map_eq_singleton_iff.mp single
    refine ⟨place, ?_, (lists.mem_iff place id).mp (by simp)⟩
    rw [← lists.coe_toFinset]
    simp
  · rintro ⟨place, only, stands⟩
    have single : (scan text).length = 1 := by rw [length_scan, only, Set.ncard_singleton]
    rw [← values, List.length_map] at single
    obtain ⟨entry, rfl⟩ := List.length_eq_one_iff.mp single
    have member : (place, value) ∈ [entry] := (lists.mem_iff place value).mpr stands
    rw [← values, ← List.mem_singleton.mp member]
    rfl

theorem Names.no_brace {text id : String} (names : Names text id) :
    openBrace ∉ id.toList ∧ closeBrace ∉ id.toList := by
  have single : scan text.toList = [id.toList] := (scan_eq_occurrences _).trans names.1
  obtain ⟨place, -, after, -, noOpen, noClose⟩ := scan_eq_singleton_iff.mp single
  exact ⟨noOpen, noClose⟩

theorem extract_eq_error_iff {output : String} {fault : Fault} :
    extract output = .error fault ↔
      match fault with
      | .missing => scan output.toList = []
      | .several count => (scan output.toList).length = count ∧ 2 ≤ count
      | .blank => ∃ value, scan output.toList = [value] ∧ value.all Text.isBlank = true := by
  unfold extract
  match scan output.toList with
  | [] =>
    cases fault with
    | several count =>
      simp only [reduceCtorEq, Except.error.injEq, List.length_nil, false_iff]
      omega
    | _ => simp
  | [value] =>
    simp only [List.cons.injEq, and_true, exists_eq_left', List.length_singleton]
    cases fault with
    | several count =>
      have : ¬ (1 = count ∧ 2 ≤ count) := by omega
      cases value.all Text.isBlank <;> simpa using this
    | _ => cases value.all Text.isBlank <;> simp
  | first :: second :: more =>
    cases fault with
    | several count =>
      simp only [List.length_cons, Except.error.injEq, Fault.several.injEq]
      omega
    | _ => simp

end Token

namespace Stage

open Token (StandsAt places)

theorem programIdIn_eq_ok_iff {step id : String} {output : Option String} :
    programIdIn step output = .ok id ↔ Token.extract (output.getD "") = .ok id := by
  unfold programIdIn
  cases Token.extract (output.getD "") <;> simp

private theorem programIdIn_eq_error_iff {step : String} {output : Option String}
    {fault : StepFault} :
    programIdIn step output = .error fault ↔
      ∃ reason, Token.extract (output.getD "") = .error reason ∧
        fault = .extraction step (.token reason) 1 := by
  unfold programIdIn
  cases Token.extract (output.getD "") <;> simp [eq_comm]

/-- An id is taken from an output exactly if one token stands in it and its id is not blank; the id
is taken as it stands. Otherwise the step fails, and the reason tells whether no token stands in the
output, or how many do, or that the only one is blank. -/
theorem programIdIn_of_places (step : String) (output : Option String) :
    let text := (output.getD "").toList
    let raised (reason : Token.Fault) : StepFault := .extraction step (.token reason) 1
    (∃ row, Token.Lists row text ∧ row.map (·.2) = Token.scan text) ∧
      (∀ id, programIdIn step output = .ok id ↔
        (∃ place, places text = {place} ∧ StandsAt text place id.toList) ∧
          Text.trim id.toList ≠ []) ∧
      (∀ fault, programIdIn step output = .error fault → ∃ reason, fault = raised reason) ∧
      (programIdIn step output = .error (raised .missing) ↔ places text = ∅) ∧
      (∀ count, programIdIn step output = .error (raised (.several count)) ↔
        (places text).ncard = count ∧ 2 ≤ count) ∧
      (programIdIn step output = .error (raised .blank) ↔
        ∃ place value, places text = {place} ∧ StandsAt text place value ∧
          Text.trim value = []) ∧
      (raised .missing).reason = "no '\x7bprogramId: ...\x7d' token in deployment output" ∧
      (∀ count, (raised (.several count)).reason =
        "expected one '\x7bprogramId: ...\x7d' token, found " ++ toString count) ∧
      (raised .blank).reason = "deployment output reported an empty programId" := by
  intro text raised
  have failed : ∀ reason, programIdIn step output = .error (raised reason) ↔
      Token.extract (output.getD "") = .error reason := by
    intro reason
    rw [programIdIn_eq_error_iff]
    simp [raised]
  refine ⟨Token.exists_lists_scan text, fun id => ?_, fun fault => ?_, ?_, fun count => ?_, ?_,
    rfl, fun count => ?_, rfl⟩
  · rw [programIdIn_eq_ok_iff, Token.extract_eq_ok_iff, Token.Names, ← Token.scan_eq_occurrences,
      Token.scan_eq_singleton_iff, Ne, Text.trim_eq_nil_iff, Text.isBlankText, Bool.not_eq_true]
  · rw [programIdIn_eq_error_iff]
    rintro ⟨reason, -, rfl⟩
    exact ⟨reason, rfl⟩
  · rw [failed, Token.extract_eq_error_iff]
    exact Token.scan_eq_nil_iff
  · rw [failed, Token.extract_eq_error_iff, ← Token.length_scan]
  · rw [failed, Token.extract_eq_error_iff]
    simp only [Token.scan_eq_singleton_iff, Text.trim_eq_nil_iff]
    constructor
    · rintro ⟨value, ⟨place, only, stands⟩, blank⟩
      exact ⟨place, value, only, stands, blank⟩
    · rintro ⟨place, value, only, stands, blank⟩
      exact ⟨value, ⟨place, only, stands⟩, blank⟩
  · rfl

end Stage

end Rollout
