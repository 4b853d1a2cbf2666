import Mathlib.Algebra.Order.Field.Power
import Mathlib.Data.Rat.Cast.Order
import Mathlib.Tactic.Linarith
import Mathlib.Tactic.Ring
import Rollout.Number.Numeral

/-!
The range of binary floating-point numbers.

Rounding gives a number of the format, or infinity if the magnitude reaches the middle between the
largest finite number and the power of two behind it. The bound is the same for ratios, whole numbers
and decimals. Quotients are compared with their divisors by cross-products, so that all is said of
natural numbers until the decimals.
-/

set_option autoImplicit false
set_option relaxedAutoImplicit false

namespace Rollout.Number.Binary64

/-- The least magnitude that is rounded to infinity: the middle between the largest finite number and
the power of two behind it. -/
def overflow : Nat := 2 ^ 1024 - 2 ^ 970

/-- A finite number of the format: its mantissa has 53 bits, and fewer only at the least scale. -/
structure IsFormed (mantissa scale : Nat) : Prop where
  bits : mantissa < 2 ^ 53
  top : scale ≤ maxScale
  full : scale = 0 ∨ 2 ^ 52 ≤ mantissa

inductive IsNumber : Binary64 → Prop
  | nan : IsNumber .nan
  | infinite (negative : Bool) : IsNumber (.infinite negative)
  | finite (negative : Bool) {mantissa scale : Nat} :
      IsFormed mantissa scale → IsNumber (.finite negative mantissa scale)

theorem overflow_pos : 0 < overflow := by decide +kernel

/-! ### Quotients -/

theorem lt_roundDiv_iff {n d k : Nat} (hd : 0 < d) :
    k < roundDiv n d ↔ (2 * k + 1) * d < 2 * n ∨ (2 * k + 1) * d = 2 * n ∧ k % 2 = 1 := by
  have hn := Nat.div_add_mod n d
  have hr := Nat.mod_lt n hd
  unfold roundDiv
  generalize n / d = q at hn ⊢
  generalize n % d = r at hn hr ⊢
  subst hn
  rcases lt_trichotomy k q with below | rfl | above
  · obtain ⟨j, rfl⟩ := Nat.exists_eq_add_of_lt below
    have expand : 2 * (d * (k + j + 1) + r) = (2 * k + 1) * d + d + 2 * (d * j) + 2 * r := by ring
    have exceeds : (2 * k + 1) * d < 2 * (d * (k + j + 1) + r) := by omega
    refine ⟨fun _ => .inl exceeds, fun _ => ?_⟩
    dsimp only
    split <;> omega
  · have expand : 2 * (d * k + r) + d = (2 * k + 1) * d + 2 * r := by ring
    simp only [Bool.or_eq_true, Bool.and_eq_true, decide_eq_true_eq, beq_iff_eq]
    split <;> omega
  · obtain ⟨j, rfl⟩ := Nat.exists_eq_add_of_lt above
    have expand : (2 * (q + j + 1) + 1) * d = 2 * (d * q) + 3 * d + 2 * (d * j) := by ring
    dsimp only
    split <;> omega

theorem scaleOf_bounds {n d : Nat} (hd : 0 < d) :
    n < d * 2 ^ scaleOf n d * 2 ^ 53 ∧ (scaleOf n d = 0 ∨ d * 2 ^ scaleOf n d * 2 ^ 52 ≤ n) := by
  have hn : n < 2 ^ (n.log2 + 1) := Nat.lt_log2_self
  have low : 2 ^ d.log2 ≤ d := Nat.log2_self_le hd.ne'
  have high : d < 2 ^ (d.log2 + 1) := Nat.lt_log2_self
  obtain ⟨guess, logs⟩ : ∃ guess, guess = n.log2 - d.log2 - 52 := ⟨_, rfl⟩
  have scale : scaleOf n d =
      if guess = 0 then 0 else if n < d * 2 ^ (guess + 52) then guess - 1 else guess := by
    subst logs
    rfl
  rw [scale]
  cases guess with
  | zero =>
    have narrow : 2 ^ (n.log2 + 1) ≤ 2 ^ (d.log2 + 53) := Nat.pow_le_pow_right two_pos (by omega)
    rw [pow_add 2 _ 53] at narrow
    rw [if_pos rfl]
    omega
  | succ g =>
    have logs : n.log2 = d.log2 + g + 53 := by omega
    have positive : n ≠ 0 := by
      rintro rfl
      simp at logs
    have wide : 2 ^ (d.log2 + 1) * 2 ^ g * 2 ^ 52 ≤ n :=
      calc 2 ^ (d.log2 + 1) * 2 ^ g * 2 ^ 52 = 2 ^ n.log2 := by rw [logs]; ring
        _ ≤ n := Nat.log2_self_le positive
    rw [if_neg g.succ_ne_zero]
    split_ifs with steep
    · refine ⟨?_, .inr (le_trans ?_ wide)⟩
      · calc n < d * 2 ^ (g + 1 + 52) := steep
          _ = d * 2 ^ g * 2 ^ 53 := by ring
      · rw [Nat.add_sub_cancel]
        gcongr
    · refine ⟨hn.trans_le ?_, .inr ?_⟩
      · calc 2 ^ (n.log2 + 1) = 2 ^ d.log2 * 2 ^ (g + 1) * 2 ^ 53 := by rw [logs]; ring
          _ ≤ d * 2 ^ (g + 1) * 2 ^ 53 := by gcongr
      · calc d * 2 ^ (g + 1) * 2 ^ 52 = d * 2 ^ (g + 1 + 52) := by ring
          _ ≤ n := Nat.le_of_not_lt steep

theorem ofLeast_eq (negative : Bool) (n d : Nat) :
    let scale := scaleOf n d
    let mantissa := roundDiv n (d * 2 ^ scale)
    ofLeast negative n d =
      if mantissa = 2 ^ 53 then
        if maxScale < scale + 1 then .infinite negative else .finite negative (2 ^ 52) (scale + 1)
      else if maxScale < scale then .infinite negative else .finite negative mantissa scale := by
  intro scale mantissa
  have unfolded : ofLeast negative n d =
      let rounded := if mantissa = 2 ^ 53 then (2 ^ 52, scale + 1) else (mantissa, scale)
      if maxScale < rounded.2 then .infinite negative else .finite negative rounded.1 rounded.2 := rfl
  rw [unfolded]
  by_cases carried : mantissa = 2 ^ 53
  · rw [if_pos carried, if_pos carried]
  · rw [if_neg carried, if_neg carried]

section Rounding

variable {n d : Nat} (hd : 0 < d)
include hd

private theorem carries_iff :
    roundDiv n (d * 2 ^ scaleOf n d) ≤ 2 ^ 53 ∧
      (roundDiv n (d * 2 ^ scaleOf n d) = 2 ^ 53 ↔
        2 ^ 54 * (d * 2 ^ scaleOf n d) ≤ 2 * n + d * 2 ^ scaleOf n d) := by
  have fits := (scaleOf_bounds (n := n) hd).1
  have positive : 0 < d * 2 ^ scaleOf n d := by positivity
  generalize d * 2 ^ scaleOf n d = unit at *
  have most : ¬2 ^ 53 < roundDiv n unit := by
    rw [lt_roundDiv_iff positive]
    rintro (more | ⟨more, -⟩) <;> linarith
  have next : 2 ^ 53 - 1 < roundDiv n unit ↔ 2 ^ 54 * unit ≤ 2 * n + unit := by
    rw [lt_roundDiv_iff positive, and_iff_left (by norm_num), ← le_iff_lt_or_eq]
    norm_num
    constructor <;> intro <;> linarith
  refine ⟨Nat.le_of_not_lt most, Iff.trans ?_ next⟩
  generalize roundDiv n unit = mantissa at most
  omega

theorem ofLeast_eq_infinite_iff (negative : Bool) :
    ofLeast negative n d = .infinite negative ↔
      2 ^ 54 * (d * 2 ^ maxScale) ≤ 2 * n + d * 2 ^ maxScale := by
  obtain ⟨fits, full⟩ := scaleOf_bounds (n := n) hd
  have carries := (carries_iff (n := n) hd).2
  have positive : 0 < d * 2 ^ scaleOf n d := by positivity
  rw [ofLeast_eq]
  rcases lt_trichotomy (scaleOf n d) maxScale with less | same | more
  · have coarser : 2 * (d * 2 ^ scaleOf n d) ≤ d * 2 ^ maxScale :=
      calc 2 * (d * 2 ^ scaleOf n d) = d * 2 ^ (scaleOf n d + 1) := by ring
        _ ≤ d * 2 ^ maxScale := by gcongr <;> omega
    have within : ¬2 ^ 54 * (d * 2 ^ maxScale) ≤ 2 * n + d * 2 ^ maxScale := by
      intro beyond
      linarith
    rw [if_neg (show ¬maxScale < scaleOf n d + 1 by omega),
      if_neg (show ¬maxScale < scaleOf n d by omega)]
    split_ifs <;> exact iff_of_false nofun within
  · rw [same] at carries ⊢
    rw [if_pos (Nat.lt_succ_self maxScale), if_neg (Nat.lt_irrefl maxScale), ← carries]
    split_ifs with carried
    · exact iff_of_true rfl carried
    · exact iff_of_false nofun carried
  · have finer : 2 * (d * 2 ^ maxScale) ≤ d * 2 ^ scaleOf n d :=
      calc 2 * (d * 2 ^ maxScale) = d * 2 ^ (maxScale + 1) := by ring
        _ ≤ d * 2 ^ scaleOf n d := by gcongr <;> omega
    have beyond : 2 ^ 54 * (d * 2 ^ maxScale) ≤ 2 * n + d * 2 ^ maxScale := by
      have wide := full.resolve_left (by omega)
      linarith
    rw [if_pos (show maxScale < scaleOf n d + 1 by omega), if_pos more, ite_self]
    exact iff_of_true rfl beyond

end Rounding

private theorem middle_iff (p e n d : Nat) :
    2 ^ 54 * (d * 2 ^ (p + (e + 1))) ≤ 2 * (n * 2 ^ e) + d * 2 ^ (p + (e + 1)) ↔
      (2 ^ 54 - 1) * 2 ^ p * d ≤ n := by
  obtain ⟨k, hk⟩ : ∃ k, 2 ^ 54 = k + 1 := ⟨2 ^ 54 - 1, by norm_num⟩
  rw [hk, Nat.add_sub_cancel]
  have left : (k + 1) * (d * 2 ^ (p + (e + 1))) =
      k * 2 ^ p * d * 2 ^ (e + 1) + d * 2 ^ (p + (e + 1)) := by ring
  have right : 2 * (n * 2 ^ e) = n * 2 ^ (e + 1) := by ring
  rw [left, right, Nat.add_le_add_iff_right]
  exact Nat.mul_le_mul_right_iff (by positivity)

/-! ### Ratios and whole numbers -/

theorem ofRatio_eq_infinite_iff {n d : Nat} (hd : 0 < d) (negative : Bool) :
    ofRatio negative n d = .infinite negative ↔ overflow * d ≤ n := by
  have middle : overflow = (2 ^ 54 - 1) * 2 ^ 970 := by decide +kernel
  obtain ⟨e, last, unit⟩ : ∃ e, maxScale = 970 + (e + 1) ∧ leastInOne = 2 ^ e := by
    refine ⟨1074, rfl, ?_⟩
    delta leastInOne
    generalize 1074 = e
    rfl
  rw [ofRatio, ofLeast_eq_infinite_iff hd, middle, last, unit, middle_iff]

theorem ofLeast_cases {n d : Nat} (hd : 0 < d) (negative : Bool) :
    ofLeast negative n d = .infinite negative ∨ ∃ mantissa scale,
      IsFormed mantissa scale ∧ ofLeast negative n d = .finite negative mantissa scale := by
  have bounds := scaleOf_bounds (n := n) hd
  have most := (carries_iff (n := n) hd).1
  have positive : 0 < d * 2 ^ scaleOf n d := by positivity
  rw [ofLeast_eq]
  split_ifs with carried beyond beyond
  · exact .inl rfl
  · exact .inr ⟨_, _, ⟨by norm_num, Nat.le_of_not_lt beyond, .inr le_rfl⟩, rfl⟩
  · exact .inl rfl
  · refine .inr ⟨_, _, ⟨lt_of_le_of_ne most carried, Nat.le_of_not_lt beyond, ?_⟩, rfl⟩
    refine bounds.2.imp_right fun wide => ?_
    have next : 2 ^ 52 - 1 < roundDiv n (d * 2 ^ scaleOf n d) := by
      refine (lt_roundDiv_iff positive).mpr (.inl ?_)
      norm_num
      linarith
    generalize roundDiv n (d * 2 ^ scaleOf n d) = mantissa at next
    omega

theorem ofRatio_cases {n d : Nat} (hd : 0 < d) (negative : Bool) :
    ofRatio negative n d = .infinite negative ∨ ∃ mantissa scale,
      IsFormed mantissa scale ∧ ofRatio negative n d = .finite negative mantissa scale :=
  ofLeast_cases hd negative

theorem ofInt?_cases (i : Int) :
    overflow ≤ i.natAbs ∧ ofInt? i = none ∨
      i.natAbs < overflow ∧ ∃ negative mantissa scale,
        IsFormed mantissa scale ∧ ofInt? i = some (.finite negative mantissa scale) := by
  have cases := ofRatio_cases (n := i.natAbs) one_pos (decide (i < 0))
  have beyond := ofRatio_eq_infinite_iff (n := i.natAbs) one_pos (decide (i < 0))
  generalize overflow = bound at beyond ⊢
  rw [Nat.mul_one] at beyond
  -- The conversion is opened as a function: what it rounds to is not to be computed.
  obtain ⟨made?, same⟩ : ∃ made?, made? = ofInt? := ⟨_, rfl⟩
  rw [← same]
  delta ofInt? at same
  rw [same]
  beta_reduce
  generalize ofRatio (decide (i < 0)) i.natAbs 1 = x at cases beyond ⊢
  rcases cases with rfl | ⟨mantissa, scale, formed, rfl⟩
  · exact .inl ⟨beyond.mp rfl, rfl⟩
  · refine .inr ⟨Nat.lt_of_not_le fun more => ?_, _, _, _, formed, rfl⟩
    cases beyond.mpr more

theorem ofInt?_eq_none_iff {i : Int} : ofInt? i = none ↔ overflow ≤ i.natAbs := by
  rcases ofInt?_cases i with ⟨beyond, none⟩ | ⟨within, _, _, _, -, finite⟩
  · exact iff_of_true none beyond
  · rw [finite]
    exact iff_of_false nofun (Nat.not_le.mpr within)

theorem isOversized_of_lt {i : Int} (within : i.natAbs < overflow) : isOversized i = false := by
  obtain ⟨bits, few, power⟩ : ∃ bits, bits < 14281 ∧ overflow ≤ 2 ^ bits :=
    ⟨1024, by decide, by decide +kernel⟩
  have log : i.natAbs.log2 < 14281 := by
    rcases Nat.eq_zero_or_pos i.natAbs with none | positive
    · rw [none]
      decide
    · exact ((Nat.log2_lt positive.ne').mpr (within.trans_le power)).trans few
  have small : decide (14281 ≤ i.natAbs.log2) = false := decide_eq_false (Nat.not_le.mpr log)
  exact Bool.and_eq_false_imp.mpr fun long => absurd long (small ▸ nofun)

/-! ### Decimals -/

section Decimals

variable {digits : Nat} {exponent : Int}

private theorem decimal_bounds (positive : digits ≠ 0) :
    let top := (Nat.toDigits 10 digits).length + exponent
    (10 : ℚ) ^ (top - 1) ≤ digits * 10 ^ exponent ∧ (digits : ℚ) * 10 ^ exponent < 10 ^ top := by
  intro top
  have length := Nat.length_toDigits_pos (b := 10) (n := digits)
  have high : digits < 10 ^ (Nat.toDigits 10 digits).length :=
    (Nat.length_toDigits_le_iff (by decide) length).mp le_rfl
  have low : 10 ^ ((Nat.toDigits 10 digits).length - 1) ≤ digits := by
    rcases Nat.eq_zero_or_pos ((Nat.toDigits 10 digits).length - 1) with short | long
    · rw [short]
      omega
    · refine Nat.le_of_not_lt fun less => ?_
      have := (Nat.length_toDigits_le_iff (by decide) long).mpr less
      omega
  have shift (a : Int) : (10 : ℚ) ^ (a + exponent) = 10 ^ a * 10 ^ exponent :=
    zpow_add₀ (by norm_num) a exponent
  constructor
  · have split : top - 1 = ((Nat.toDigits 10 digits).length - 1 : Nat) + exponent := by omega
    rw [split, shift, zpow_natCast]
    gcongr
    exact_mod_cast low
  · rw [shift, zpow_natCast]
    gcongr
    exact_mod_cast high

theorem ofDecimal_eq_infinite_iff (negative : Bool) :
    ofDecimal negative digits exponent = .infinite negative ↔
      (overflow : ℚ) ≤ digits * 10 ^ exponent := by
  have least : 1 ≤ overflow := overflow_pos
  have pow (k : Nat) : Nat.pow 10 k = 10 ^ k := rfl
  unfold ofDecimal
  by_cases none : digits = 0
  · rw [if_pos none, none, Nat.cast_zero, zero_mul]
    have positive : (0 : ℚ) < overflow := Nat.cast_pos.mpr overflow_pos
    exact iff_of_false nofun (not_le.mpr positive)
  · rw [if_neg none]
    dsimp only
    split_ifs with large small whole
    · refine iff_of_true rfl ?_
      have most : overflow ≤ 10 ^ 400 := by decide +kernel
      calc (overflow : ℚ) ≤ 10 ^ (400 : Int) := by exact_mod_cast most
        _ ≤ 10 ^ ((Nat.toDigits 10 digits).length + exponent - 1) :=
          zpow_le_zpow_right₀ (by norm_num) (by omega)
        _ ≤ digits * 10 ^ exponent := (decimal_bounds none).1
    · refine iff_of_false nofun (not_le.mpr ?_)
      calc (digits : ℚ) * 10 ^ exponent < 10 ^ ((Nat.toDigits 10 digits).length + exponent) :=
          (decimal_bounds none).2
        _ ≤ 10 ^ (0 : Int) := zpow_le_zpow_right₀ (by norm_num) (by omega)
        _ ≤ overflow := by exact_mod_cast least
    · obtain ⟨k, rfl⟩ := Int.eq_ofNat_of_zero_le whole
      rw [ofRatio_eq_infinite_iff one_pos]
      generalize overflow = bound
      rw [Nat.mul_one, Int.toNat_natCast, zpow_natCast, pow]
      exact_mod_cast Iff.rfl
    · obtain ⟨k, rfl⟩ : ∃ k : Nat, exponent = -k := ⟨exponent.natAbs, by omega⟩
      have positive : 0 < Nat.pow 10 k := Nat.pow_pos (by decide)
      rw [neg_neg, Int.toNat_natCast, ofRatio_eq_infinite_iff positive]
      generalize overflow = bound
      rw [zpow_neg, zpow_natCast, ← div_eq_mul_inv, le_div_iff₀ (by positivity), pow]
      exact_mod_cast Iff.rfl

theorem ofDecimal_cases (digits : Nat) (exponent : Int) (negative : Bool) :
    ofDecimal negative digits exponent = .infinite negative ∨ ∃ mantissa scale,
      IsFormed mantissa scale ∧ ofDecimal negative digits exponent =
        .finite negative mantissa scale := by
  have nothing : IsFormed 0 0 := ⟨by norm_num, Nat.zero_le _, .inl rfl⟩
  unfold ofDecimal
  by_cases none : digits = 0
  · rw [if_pos none]
    exact .inr ⟨0, 0, nothing, rfl⟩
  · rw [if_neg none]
    dsimp only
    split_ifs
    · exact .inl rfl
    · exact .inr ⟨0, 0, nothing, rfl⟩
    · exact ofRatio_cases one_pos negative
    · exact ofRatio_cases (Nat.pow_pos (by decide)) negative

theorem isNumber_ofDecimal (digits : Nat) (exponent : Int) (negative : Bool) :
    (ofDecimal negative digits exponent).IsNumber := by
  rcases ofDecimal_cases digits exponent negative with endless | ⟨_, _, formed, finite⟩
  · rw [endless]
    exact .infinite negative
  · rw [finite]
    exact .finite negative formed

end Decimals

end Rollout.Number.Binary64
