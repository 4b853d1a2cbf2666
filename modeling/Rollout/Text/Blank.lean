/-!
Blank characters and the trimming of text.

A text is trimmed by cutting the blank characters off its ends; what remains starts and ends with
a character that is not blank.
-/

set_option autoImplicit false
set_option relaxedAutoImplicit false

namespace Rollout.Text

/-- The blank characters: ASCII tabs, line ends, the four information separators and the space,
then the next-line character and the spaces and separators of the other scripts. -/
def isBlank (c : Char) : Bool :=
  let n := c.toNat
  (9 ≤ n && n ≤ 13) || (28 ≤ n && n ≤ 32) || n == 0x85 || n == 0xA0 || n == 0x1680 ||
    (0x2000 ≤ n && n ≤ 0x200A) || n == 0x2028 || n == 0x2029 || n == 0x202F || n == 0x205F ||
    n == 0x3000

def dropEndWhile {α : Type} (p : α → Bool) (l : List α) : List α :=
  (l.reverse.dropWhile p).reverse

def stripWhile {α : Type} (p : α → Bool) (l : List α) : List α :=
  dropEndWhile p (l.dropWhile p)

def trim (cs : List Char) : List Char := stripWhile isBlank cs

def trimEnd (cs : List Char) : List Char := dropEndWhile isBlank cs

def isBlankText (s : String) : Bool := s.toList.all isBlank

theorem trim_eq_nil_iff (cs : List Char) : trim cs = [] ↔ cs.all isBlank = true := by
  unfold trim stripWhile dropEndWhile
  induction cs with
  | nil => simp
  | cons c cs ih =>
    by_cases hc : isBlank c = true
    · simpa [List.dropWhile_cons, hc] using ih
    · have hne : ∀ l : List Char, List.dropWhile isBlank (l ++ [c]) ≠ [] := by
        intro l
        induction l with
        | nil => simp [hc]
        | cons d l ihl => by_cases hd : isBlank d = true <;> simp [hd, ihl]
      simp [hc, hne]

example : trim "\u2003 a b\t\n".toList = "a b".toList := by decide

end Rollout.Text
