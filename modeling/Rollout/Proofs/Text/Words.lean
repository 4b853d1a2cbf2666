import Rollout.Text.Words

/-!
Lines that spell out words.

A word is written between apostrophes, where each apostrophe of its own is put between double quotes,
or as it is, if nothing in it means more than itself. A line of words that are written so, with
separators between them, is split into these words again, whatever characters they have.
-/

set_option autoImplicit false
set_option relaxedAutoImplicit false

namespace Rollout.Text.Words

def IsGap (gap : List Char) : Prop := ∀ c ∈ gap, isSeparator c = true

instance : DecidablePred IsGap := List.decidableBAll _

def IsPlain (c : Char) : Prop := isSeparator c = false ∧ isQuote c = false ∧ c ≠ '\\'

instance : DecidablePred IsPlain := fun _ => inferInstanceAs (Decidable (_ ∧ _ ∧ _))

/-- How a character is written between apostrophes: an apostrophe leaves them, stands between double
quotes, and goes on between apostrophes. -/
def escaped (c : Char) : List Char :=
  if c = '\x27' then ['\x27', '"', '\x27', '"', '\x27'] else [c]

def quoted (word : List Char) : List Char := '\x27' :: word.flatMap escaped ++ ['\x27']

/-- A word can be written between apostrophes, or as it is if it is not empty and plain. -/
inductive Writes (word : List Char) : List Char → Prop
  | quoted : Writes word (quoted word)
  | bare : word ≠ [] → (∀ c ∈ word, IsPlain c) → Writes word word

/-- Words in a row, with separators between them. -/
inductive Joins : List (List Char) → List Char → Prop
  | none : Joins [] []
  | one {word piece : List Char} : Writes word piece → Joins [word] piece
  | more {word piece gap next line : List Char} {words : List (List Char)} : Writes word piece →
      IsGap gap → gap ≠ [] → Joins (next :: words) line →
      Joins (word :: next :: words) (piece ++ gap ++ line)

/-- A line spells out words: they stand in it one after the other, and separators may stand before and
behind them. -/
def Spells (line : String) (words : List String) : Prop :=
  ∃ before row after, line.toList = before ++ row ++ after ∧ IsGap before ∧ IsGap after ∧
    Joins (words.map String.toList) row

section Read

variable {word gap rest : List Char}

theorem read_gap_append (separated : IsGap gap) :
    read .gap word (gap ++ rest) = read .gap word rest := by
  induction gap with
  | nil => rfl
  | cons c more ih =>
    rw [List.cons_append, read, if_pos (separated c List.mem_cons_self)]
    exact ih fun other mem => separated other (List.mem_cons_of_mem c mem)

theorem read_bare_gap (separated : IsGap gap) (some : gap ≠ []) :
    read .bare word (gap ++ rest) = (read .gap [] rest).map (word.reverse :: ·) := by
  cases gap with
  | nil => contradiction
  | cons c more =>
    rw [List.cons_append, read, if_pos (separated c List.mem_cons_self),
      read_gap_append fun other mem => separated other (List.mem_cons_of_mem c mem)]

theorem read_bare_end (separated : IsGap gap) : read .bare word gap = .ok [word.reverse] := by
  cases gap with
  | nil => rfl
  | cons c more =>
    have ended : read .bare word (c :: more ++ []) = (read .gap [] []).map (word.reverse :: ·) :=
      read_bare_gap separated (List.cons_ne_nil c more)
    rw [List.append_nil] at ended
    exact ended

theorem read_bare_plain {acc : List Char} (plain : ∀ c ∈ word, IsPlain c) :
    read .bare acc (word ++ rest) = read .bare (word.reverse ++ acc) rest := by
  induction word generalizing acc with
  | nil => rfl
  | cons c more ih =>
    obtain ⟨separator, quote, backslash⟩ := plain c List.mem_cons_self
    rw [List.cons_append, read]
    simp only [separator, quote, beq_iff_eq, backslash, if_false, Bool.false_eq_true]
    rw [ih fun other mem => plain other (List.mem_cons_of_mem c mem), List.reverse_cons,
      List.append_assoc]
    rfl

theorem read_quote_escaped {acc : List Char} :
    read (.quote '\x27') acc (word.flatMap escaped ++ '\x27' :: rest) =
      read .bare (word.reverse ++ acc) rest := by
  induction word generalizing acc with
  | nil => rfl
  | cons c more ih =>
    have kept : read (.quote '\x27') acc (escaped c ++ (more.flatMap escaped ++ '\x27' :: rest)) =
        read (.quote '\x27') (c :: acc) (more.flatMap escaped ++ '\x27' :: rest) := by
      by_cases own : c = '\x27'
      · subst own
        rfl
      · simp [escaped, own, read]
    rw [List.flatMap_cons, List.append_assoc, kept, ih, List.reverse_cons, List.append_assoc]
    rfl

theorem read_writes {acc piece : List Char} (written : Writes word piece) :
    read .gap acc (piece ++ rest) = read .bare word.reverse rest := by
  cases written with
  | quoted =>
    have inside : read (.quote '\x27') [] (word.flatMap escaped ++ '\x27' :: rest) =
        read .bare (word.reverse ++ []) rest := read_quote_escaped
    rw [List.append_nil] at inside
    rw [quoted, List.cons_append, List.cons_append, List.append_assoc]
    exact inside
  | bare some plain =>
    cases word with
    | nil => contradiction
    | cons c more =>
      obtain ⟨separator, quote, backslash⟩ := plain c List.mem_cons_self
      rw [List.cons_append, read]
      simp only [separator, quote, beq_iff_eq, backslash, if_false, Bool.false_eq_true]
      rw [read_bare_plain fun other mem => plain other (List.mem_cons_of_mem c mem),
        List.reverse_cons]

end Read

theorem read_joins {words : List (List Char)} {row after : List Char} (joined : Joins words row)
    (separated : IsGap after) : read .gap [] (row ++ after) = .ok words := by
  induction joined with
  | none =>
    have blank : read .gap [] (after ++ []) = read .gap [] [] := read_gap_append separated
    rw [List.append_nil] at blank
    exact blank
  | one written => rw [read_writes written, read_bare_end separated, List.reverse_reverse]
  | more written between some joined ih =>
    rw [List.append_assoc, List.append_assoc, read_writes written, read_bare_gap between some, ih,
      List.reverse_reverse]
    rfl

theorem split_of_spells {line : String} {words : List String} (spelled : Spells line words) :
    split line = .ok words := by
  obtain ⟨before, row, after, same, front, back, joined⟩ := spelled
  rw [split, same, List.append_assoc, read_gap_append front, read_joins joined back]
  simp [Except.map, Function.comp_def]

end Rollout.Text.Words
