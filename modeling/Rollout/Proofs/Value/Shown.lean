import Rollout.Value

/-!
Texts of values are not empty.

Every quoted text has at least its marks, and what stands for a collection inside itself is never
empty. So only the empty text is shown as nothing, and a value that is given is shown as something.
-/

set_option autoImplicit false
set_option relaxedAutoImplicit false

namespace Rollout

namespace Number.Binary64

theorem layout_ne_nil (digits : List Char) (top : Int) : layout digits top ≠ [] := by
  unfold layout
  split
  · split <;> simp
  · simp

theorem toText_ne_empty (x : Binary64) : x.toText ≠ "" := by
  cases x with
  | nan => simp [toText]
  | infinite negative => cases negative <;> simp [toText]
  | finite negative mantissa scale =>
    simp only [toText]
    cases negative with
    | true => simp
    | false =>
      by_cases zero : mantissa = 0
      · simp [zero]
      · simp [zero, layout_ne_nil]

end Number.Binary64

theorem Date.text_ne_empty (d : Date) : d.text ≠ "" := by
  intro empty
  have dash : '-' ∈ d.text.toList := by simp [text, toString]
  rw [empty] at dash
  cases dash

theorem Moment.text_ne_empty (separator : String) (m : Moment) : m.text separator ≠ "" := by
  simp [text, Date.text_ne_empty]

namespace Value

theorem dots_ne_empty (v : Value) : v.dots ≠ "" := by
  cases v <;> simp [dots]

/-- What stands for the knots around a place is not empty. -/
def IsMarked (around : List (Nat × String)) : Prop := ∀ entry ∈ around, entry.2 ≠ ""

theorem IsMarked.cons {around : List (Nat × String)} (marked : IsMarked around) (mark : Nat)
    (body : Value) : IsMarked ((mark, dots body) :: around) := by
  intro entry mem
  rcases List.mem_cons.mp mem with rfl | mem
  · exact dots_ne_empty body
  · exact marked entry mem

theorem IsMarked.getD_ne_empty {around : List (Nat × String)} (marked : IsMarked around)
    (mark : Nat) {text : String} (some : text ≠ "") : (dotsOf around mark).getD text ≠ "" := by
  unfold dotsOf
  cases found : around.find? (·.1 == mark) with
  | none => exact some
  | some entry => exact marked entry (List.mem_of_find?_eq_some found)

theorem quoteIn_ne_empty {around : List (Nat × String)} (marked : IsMarked around) :
    (v : Value) → quoteIn around v ≠ ""
  | .null => show "None" ≠ "" by simp
  | .bool b => show (if b then "True" else "False") ≠ "" by cases b <;> simp
  | .int i => show toString i ≠ "" by cases i <;> simp [toString, Int.repr]
  | .float x => x.toText_ne_empty
  | .text s => show Text.quoted s ≠ "" by simp [Text.quoted]
  | .codes ns => show ns.quoted ≠ "" by simp [Text.Codes.quoted]
  | .bytes bs => show Text.quotedBytes bs ≠ "" by simp [Text.quotedBytes]
  | .date d => show s!"datetime.date({d.year}, {d.month}, {d.day})" ≠ "" by simp
  | .moment _ => show "datetime.datetime(" ++ _ ++ ")" ≠ "" by simp
  | .list items => show "[" ++ ", ".intercalate (quoteAll around items) ++ "]" ≠ "" by simp
  | .pair first second =>
    show "(" ++ quoteIn around first ++ ", " ++ quoteIn around second ++ ")" ≠ "" by simp
  | .set items => show (if items.isEmpty then "set()" else "\x7b" ++ _ ++ "\x7d") ≠ "" by
    split <;> simp
  | .map entries =>
    show "\x7b" ++ ", ".intercalate (quoteEntries around entries) ++ "\x7d" ≠ "" by simp
  | .knot mark body =>
    marked.getD_ne_empty mark (quoteIn_ne_empty (marked.cons mark body) body)
  | .again mark => marked.getD_ne_empty mark (by simp)

theorem shown_ne_empty {v : Value} (given : v.isGiven = true) : v.shown ≠ "" := by
  have quoted : v.quote ≠ "" := @quoteIn_ne_empty [] (fun _ => nofun) v
  cases v with
  | text s => simpa [isGiven, shown] using given
  | codes ns => simpa [isGiven, shown, Text.Codes.text] using given
  | date d => exact d.text_ne_empty
  | moment m => exact m.text_ne_empty " "
  | _ => exact quoted

end Value

end Rollout
