import Rollout.Proofs.Number.Range

/-!
The texts that name infinity.

Two kinds of texts are read as infinity: the words for it, and decimals so large that they are rounded
to it. A decimal is its digits with an exponent of ten, which is what its reading gives before the
rounding.
-/
set_option autoImplicit false
set_option relaxedAutoImplicit false

namespace Rollout.Number

open Rollout.Text (digitValue? stripWhile)

/-- Read the part behind the point, if there is one: the digits so far as a whole number, how many of
them stand behind the point, and the rest. -/
def fraction? (whole count : Nat) : List Char → Option (Nat × Nat × List Char)
  | '.' :: rest =>
    (digitRun whole count false rest).map fun (digits, total, rest) => (digits, total - count, rest)
  | rest => some (whole, 0, rest)

/-- The digits of a decimal numeral without sign or blanks, as a whole number, and the exponent of ten
that it is to be multiplied by. -/
def written? (cs : List Char) : Option (Nat × Int) := do
  let (whole, count, rest) ← digitRun 0 0 false cs
  let (digits, places, rest) ← fraction? whole count rest
  if count + places = 0 then none
  else (exponent? rest).map fun exponent => (digits, exponent - places)

theorem magnitude?_eq (negative : Bool) (cs : List Char) :
    magnitude? negative cs =
      (written? cs).map fun (digits, exponent) => .ofDecimal negative digits exponent := by
  -- What number a decimal is made is left open, so that none is computed.
  obtain ⟨made, same⟩ : ∃ made, made = Binary64.ofDecimal := ⟨_, rfl⟩
  unfold magnitude? written?
  rw [← same]
  cases digitRun 0 0 false cs with
  | none => rfl
  | some run =>
    obtain ⟨whole, count, rest⟩ := run
    simp only [Option.bind_eq_bind, Option.bind_some]
    split
    · rename_i rest
      rw [fraction?]
      cases digitRun whole count false rest with
      | none => rfl
      | some run =>
        obtain ⟨digits, total, rest⟩ := run
        simp only [Option.bind_some, Option.map_some]
        split
        · rfl
        · cases exponent? rest <;> rfl
    · rename_i pointless
      rw [fraction?.eq_2 _ _ _ pointless]
      simp only [Option.bind_some]
      split
      · rfl
      · cases exponent? rest <;> rfl

private theorem toLower_cases (c : Char) : c.toLower = c ∨ c.toLower.toNat = c.toNat + 32 := by
  unfold Char.toLower
  split
  · rename_i capital
    have last : c.val.toNat ≤ 90 := UInt32.le_iff_toNat_le.mp capital.2
    have sum : (c.val + 32).toNat = (c.val.toNat + 32) % 2 ^ 32 := UInt32.toNat_add c.val 32
    exact .inr (sum.trans (Nat.mod_eq_of_lt (by omega)))
  · exact .inl rfl

theorem written?_of_letter {c : Char} (letter : c.toLower = 'i' ∨ c.toLower = 'n') (rest : List Char) :
    written? (c :: rest) = none := by
  have among : c = 'i' ∨ c = 'n' ∨ c = 'I' ∨ c = 'N' := by
    rcases toLower_cases c with small | capital
    · rw [small] at letter
      tauto
    · rcases letter with letter | letter
      · rw [letter] at capital
        exact .inr (.inr (.inl (Char.toNat_inj.mp (Nat.add_right_cancel capital.symm))))
      · rw [letter] at capital
        exact .inr (.inr (.inr (Char.toNat_inj.mp (Nat.add_right_cancel capital.symm))))
  have none : digitValue? c = none ∧ (c == '_') = false ∧ c ≠ '.' := by
    rcases among with rfl | rfl | rfl | rfl <;> decide
  have pointless : ∀ other, c :: rest = '.' :: other → False := fun other same => by
    cases same
    exact none.2.2 rfl
  simp only [written?, digitRun, none.1, none.2.1, Bool.false_eq_true, if_false,
    Option.bind_eq_bind, Option.bind_some, fraction?.eq_2 _ _ _ pointless, Nat.add_zero, if_true]

private theorem word_of_written {body : List Char} {decimal : Nat × Int}
    (written : written? body = some decimal) {word : String}
    (letter : word.toList.head? = some 'i' ∨ word.toList.head? = some 'n') :
    (String.ofList (body.map Char.toLower) == word) = false := by
  rw [beq_eq_false_iff_ne]
  rintro rfl
  rw [String.toList_ofList] at letter
  cases body with
  | nil => simp at letter
  | cons c rest =>
    have none := written?_of_letter (by simpa using letter) rest
    cases none.symm.trans written

/-- A text names infinity: it is a word for it, or a decimal too large for a finite number, and it has
no sign below zero. -/
inductive NamesInfinity (s : String) : Prop
  | word {body : List Char} : sign (stripWhile isNumeralBlank s.toList) = (false, body) →
      String.ofList (body.map Char.toLower) ∈ ["inf", "infinity"] → NamesInfinity s
  | decimal {body : List Char} {digits : Nat} {exponent : Int} :
      sign (stripWhile isNumeralBlank s.toList) = (false, body) →
      written? body = some (digits, exponent) →
      (Binary64.overflow : ℚ) ≤ digits * 10 ^ exponent → NamesInfinity s

theorem decimal?_eq_infinite_iff (s : String) :
    decimal? s = some (.infinite false) ↔ NamesInfinity s := by
  constructor
  · intro read
    unfold decimal? at read
    cases signed : sign (stripWhile isNumeralBlank s.toList) with
    | mk negative body =>
      simp only [signed] at read
      split_ifs at read with infinity nan
      · cases read
        refine .word signed ?_
        simpa using infinity
      · cases read
      · rw [magnitude?_eq, Option.map_eq_some_iff] at read
        obtain ⟨⟨digits, exponent⟩, written, rounded⟩ := read
        rcases Binary64.ofDecimal_cases digits exponent negative with endless | ⟨_, _, -, finite⟩
        · cases endless.symm.trans rounded
          exact .decimal signed written ((Binary64.ofDecimal_eq_infinite_iff false).mp endless)
        · cases finite.symm.trans rounded
  · rintro (⟨signed, word⟩ | ⟨signed, written, beyond⟩)
    · unfold decimal?
      simp only [signed]
      rw [if_pos]
      simpa using word
    · unfold decimal?
      simp only [signed]
      rw [word_of_written written (.inl rfl), word_of_written written (.inl rfl),
        word_of_written written (.inr rfl), magnitude?_eq, written]
      exact congrArg some ((Binary64.ofDecimal_eq_infinite_iff false).mpr beyond)

theorem isNumber_of_decimal {s : String} {x : Binary64} (read : decimal? s = some x) :
    x.IsNumber := by
  unfold decimal? at read
  cases signed : sign (stripWhile isNumeralBlank s.toList) with
  | mk negative body =>
    simp only [signed] at read
    split_ifs at read
    · cases read
      exact .infinite negative
    · cases read
      exact .nan
    · rw [magnitude?_eq, Option.map_eq_some_iff] at read
      obtain ⟨⟨digits, exponent⟩, -, rfl⟩ := read
      exact Binary64.isNumber_ofDecimal digits exponent negative

end Rollout.Number
