import Rollout.Proofs.Calendar.Order

/-!
The moments that a clock tells.

A clock counts the seconds since the start of 1970. The date of a day's number is found by counting
the years and then the months that have begun by that day, so it is a day of the calendar and has
that number again; a moment of the clock has the seconds that the clock tells.
-/

set_option autoImplicit false
set_option relaxedAutoImplicit false

namespace Rollout

open Calendar

theorem lt_iff_lt_length {f : Nat → Nat} (mono : Monotone f) (bound : Nat) {size k : Nat}
    (within : k < size) :
    f k < bound ↔ k < ((List.range size).filter fun i => f i < bound).length := by
  induction size with
  | zero => exact absurd within (Nat.not_lt_zero k)
  | succ size ih =>
    rw [List.range_succ, List.filter_append, List.length_append]
    by_cases last : f size < bound
    · have all : ∀ i ∈ List.range size, decide (f i < bound) = true := fun i mem =>
        decide_eq_true ((mono (List.mem_range.mp mem).le).trans_lt last)
      have here : f k < bound := (mono (Nat.le_of_lt_succ within)).trans_lt last
      rw [List.filter_eq_self.mpr all, List.length_range]
      simp only [here, last, List.filter_cons_of_pos, decide_true, List.length_singleton, true_iff,
        List.filter_nil]
      exact within
    · have few : ((List.range size).filter fun i => decide (f i < bound)).length ≤ size :=
        (List.length_filter_le _ _).trans_eq List.length_range
      rw [List.filter_cons_of_neg (by simpa using last), List.filter_nil, List.length_nil,
        Nat.add_zero]
      rcases Nat.lt_succ_iff_lt_or_eq.mp within with before | rfl
      · exact ih before
      · exact iff_of_false last few.not_gt

namespace Date

theorem year_ofOrdinal {n : Nat} (positive : 0 < n) :
    0 < (ofOrdinal n).year ∧ daysUntil ((ofOrdinal n).year - 1) < n ∧
      n ≤ daysUntil (ofOrdinal n).year := by
  obtain ⟨early, eq⟩ : ∃ early, early = n * 400 / 146097 := ⟨_, rfl⟩
  have mono : Monotone fun k => daysUntil (early + k) :=
    daysUntil_mono.comp fun _ _ le => Nat.add_le_add_left le early
  have year : (ofOrdinal n).year =
      early + ((List.range 2).filter fun k => daysUntil (early + k) < n).length := by
    rw [eq]
    rfl
  have first := lt_iff_lt_length mono n (by decide : 0 < 2)
  have second := lt_iff_lt_length mono n (by decide : 1 < 2)
  have few : ((List.range 2).filter fun k => daysUntil (early + k) < n).length ≤ 2 :=
    List.length_filter_le _ _
  rw [year]
  generalize ((List.range 2).filter fun k => daysUntil (early + k) < n).length = count at *
  have counts : count = 0 ∨ count = 1 ∨ count = 2 := by omega
  rcases counts with rfl | rfl | rfl
  · simp only [daysUntil, Nat.add_zero, Nat.lt_irrefl, iff_false] at first ⊢
    omega
  · simp only [daysUntil, Nat.add_zero, Nat.add_sub_cancel, Nat.lt_irrefl, iff_false] at first second ⊢
    omega
  · have before : early + 2 - 1 = early + 1 := rfl
    simp only [daysUntil, before] at second ⊢
    omega

theorem month_ofOrdinal {n : Nat} (positive : 0 < n) :
    (0 < (ofOrdinal n).month ∧ (ofOrdinal n).month ≤ 12) ∧
      daysUntil ((ofOrdinal n).year - 1) +
        daysBefore (ofOrdinal n).year ((ofOrdinal n).month - 1) < n ∧
      n ≤ daysUntil ((ofOrdinal n).year - 1) +
        daysBefore (ofOrdinal n).year (ofOrdinal n).month := by
  obtain ⟨first, begun, within⟩ := year_ofOrdinal positive
  obtain ⟨year, eq⟩ : ∃ year, year = (ofOrdinal n).year := ⟨_, rfl⟩
  have mono : Monotone fun k => daysUntil (year - 1) + daysBefore year k := fun _ _ le =>
    Nat.add_le_add_left (daysBefore_mono year le) _
  have month : (ofOrdinal n).month =
      ((List.range 12).filter fun k => daysUntil (year - 1) + daysBefore year k < n).length := by
    rw [eq]
    rfl
  have few : ((List.range 12).filter fun k =>
      daysUntil (year - 1) + daysBefore year k < n).length ≤ 12 :=
    List.length_filter_le _ _
  have counts {k : Nat} (small : k < 12) := lt_iff_lt_length mono n small
  rw [month, ← eq]
  rw [← eq] at begun within first
  generalize ((List.range 12).filter fun k =>
    daysUntil (year - 1) + daysBefore year k < n).length = count at *
  have positive : 0 < count := (counts (by decide)).mp begun
  refine ⟨⟨positive, few⟩, (counts (by omega)).mpr (by omega), ?_⟩
  rcases Nat.lt_or_ge count 12 with inner | last
  · exact Nat.le_of_not_lt (mt (counts inner).mp (Nat.lt_irrefl count))
  · have whole : count = 12 := by omega
    obtain ⟨before, rfl⟩ := Nat.exists_eq_add_one.mpr first
    rw [whole, Nat.add_sub_cancel, ← daysUntil_succ]
    exact within

theorem ofOrdinal_spec {n : Nat} (positive : 0 < n) :
    (ofOrdinal n).IsCivil ∧ (ofOrdinal n).ordinal = n := by
  have year := (year_ofOrdinal positive).1
  obtain ⟨month, begun, within⟩ := month_ofOrdinal positive
  have day : (ofOrdinal n).day = n - (daysUntil ((ofOrdinal n).year - 1) +
      daysBefore (ofOrdinal n).year ((ofOrdinal n).month - 1)) := Nat.add_sub_add_right n 1 _
  have inMonth : daysBefore (ofOrdinal n).year (ofOrdinal n).month =
      daysBefore (ofOrdinal n).year ((ofOrdinal n).month - 1) +
        daysIn (ofOrdinal n).year (ofOrdinal n).month := by
    obtain ⟨before, eq⟩ := Nat.exists_eq_add_one.mpr month.1
    rw [eq, daysBefore_succ, Nat.add_sub_cancel]
  refine ⟨⟨year, month, by omega, by omega⟩, ?_⟩
  rw [ordinal_eq]
  omega

end Date

namespace Moment

theorem isCivil_ofSeconds (seconds : Nat) {microsecond : Nat} (fraction : microsecond < 1000000) :
    (ofSeconds seconds microsecond).IsCivil where
  date := (Date.ofOrdinal_spec (Nat.add_pos_left (by decide) _)).1
  hour := Nat.mod_lt _ (by decide)
  minute := Nat.mod_lt _ (by decide)
  second := Nat.mod_lt _ (by decide)
  microsecond := fraction

theorem ordinal_start : Date.ordinal ⟨1970, 1, 1⟩ = 719163 := by decide

theorem seconds_ofSeconds (seconds microsecond : Nat) :
    (ofSeconds seconds microsecond).seconds = Date.ordinal ⟨1970, 1, 1⟩ * 86400 + seconds := by
  have ordinal := (Date.ofOrdinal_spec (Nat.add_pos_left
    (by decide : 0 < Date.ordinal ⟨1970, 1, 1⟩) (seconds / 86400))).2
  have parts : (ofSeconds seconds microsecond).seconds =
      (((Date.ordinal ⟨1970, 1, 1⟩ + seconds / 86400) * 24 + seconds / 3600 % 24) * 60 +
        seconds / 60 % 60) * 60 + seconds % 60 := by
    rw [← ordinal]
    rfl
  rw [parts, ordinal_start]
  omega

theorem year_ofSeconds {seconds : Nat} (time : seconds < 253402300800) (microsecond : Nat) :
    1000 ≤ (ofSeconds seconds microsecond).date.year ∧
      (ofSeconds seconds microsecond).date.year ≤ 9999 := by
  obtain ⟨-, begun, within⟩ := Date.year_ofOrdinal (Nat.add_pos_left
    (by decide : 0 < Date.ordinal ⟨1970, 1, 1⟩) (seconds / 86400))
  change daysUntil ((ofSeconds seconds microsecond).date.year - 1) < _ at begun
  change _ ≤ daysUntil (ofSeconds seconds microsecond).date.year at within
  rw [ordinal_start] at begun within
  simp only [daysUntil] at begun within
  omega

end Moment

end Rollout
