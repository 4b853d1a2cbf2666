/-!
Line ends.

A carriage return and a line feed together, and a carriage return alone, count as a line feed.
-/

set_option autoImplicit false
set_option relaxedAutoImplicit false

namespace Rollout.Text

def unifyLineEnds : List Char → List Char
  | [] => []
  | '\r' :: '\n' :: rest => '\n' :: unifyLineEnds rest
  | c :: rest => (if c == '\r' then '\n' else c) :: unifyLineEnds rest

theorem unifyLineEnds_cons {c : Char} (plain : c ≠ '\r') (rest : List Char) :
    unifyLineEnds (c :: rest) = c :: unifyLineEnds rest := by
  rw [unifyLineEnds]
  · simp [plain]
  · exact fun _ same _ => absurd same plain

theorem unifyLineEnds_append_of_not_mem {front : List Char} (plain : '\r' ∉ front)
    (back : List Char) : unifyLineEnds (front ++ back) = front ++ unifyLineEnds back := by
  induction front with
  | nil => rfl
  | cons c cs ih =>
    simp only [List.mem_cons, not_or] at plain
    rw [List.cons_append, unifyLineEnds_cons (Ne.symm plain.1), ih plain.2, List.cons_append]

theorem unifyLineEnds_append (front : List Char) {c : Char} (apart : c ≠ '\n')
    (back : List Char) :
    unifyLineEnds (front ++ c :: back) = unifyLineEnds front ++ unifyLineEnds (c :: back) := by
  fun_induction unifyLineEnds front with
  | case1 => rfl
  | case2 rest ih => simp only [List.cons_append, unifyLineEnds, ih]
  | case3 d rest lone ih =>
    rw [List.cons_append, unifyLineEnds, ih, List.cons_append]
    -- A carriage return at the end of the first text meets no line feed in the second.
    intro later same pair
    cases rest with
    | nil => exact apart (List.cons.inj pair).1
    | cons e more =>
      obtain ⟨rfl, -⟩ := List.cons.inj pair
      exact lone more same rfl

/-- The lines of a text, without their line feeds; a text that ends in a line feed has no empty
line after it. -/
def lines : List Char → List (List Char)
  | [] => []
  | c :: rest =>
    if c == '\n' then [] :: lines rest
    else match lines rest with
      | [] => [[c]]
      | line :: more => (c :: line) :: more

theorem lines_append_lineFeed {line : List Char} (plain : '\n' ∉ line) (rest : List Char) :
    lines (line ++ '\n' :: rest) = line :: lines rest := by
  induction line with
  | nil => simp [lines]
  | cons c cs ih =>
    simp only [List.mem_cons, not_or] at plain
    rw [List.cons_append, lines, ih plain.2]
    simp [Ne.symm plain.1]

theorem lines_of_not_mem {line : List Char} (plain : '\n' ∉ line) (filled : line ≠ []) :
    lines line = [line] := by
  induction line with
  | nil => exact absurd rfl filled
  | cons c cs ih =>
    simp only [List.mem_cons, not_or] at plain
    rw [lines]
    cases cs with
    | nil => simp [lines, Ne.symm plain.1]
    | cons d ds =>
      rw [ih plain.2 (List.cons_ne_nil d ds)]
      simp [Ne.symm plain.1]

example : unifyLineEnds "a\r\r\nb\n".toList = "a\n\nb\n".toList := by decide

example : lines "a\n\nbc".toList = ["a".toList, [], "bc".toList] := by decide

end Rollout.Text
