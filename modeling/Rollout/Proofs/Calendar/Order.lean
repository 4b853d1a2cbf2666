import Rollout.Proofs.Calendar.Digits

/-!
The order of civil moments, of their fields and of their digits.

The fields of a moment are in the order of time: each of them is worth more than all that can stand
behind it. For days this is the count of days before a month and before a year. The digits have the
order of the fields as long as the year has four of them.
-/

set_option autoImplicit false
set_option relaxedAutoImplicit false

namespace Rollout

/-! ### Days -/

namespace Calendar

theorem daysIn_le (year month : Nat) : daysIn year month ≤ 31 := by
  unfold daysIn
  repeat' split
  all_goals decide

/-- The days of a year before so many of its months are over. -/
def daysBefore (year months : Nat) : Nat :=
  (List.range months).foldl (fun n k => n + daysIn year (k + 1)) 0

theorem daysBefore_succ (year months : Nat) :
    daysBefore year (months + 1) = daysBefore year months + daysIn year (months + 1) := by
  rw [daysBefore, List.range_succ, List.foldl_append]
  rfl

theorem daysBefore_mono (year : Nat) : Monotone (daysBefore year) := by
  refine monotone_nat_of_le_succ fun months => ?_
  rw [daysBefore_succ]
  exact Nat.le_add_right _ _

/-- The days of so many whole years from the first one on. -/
def daysUntil (years : Nat) : Nat := years * 365 + years / 4 - years / 100 + years / 400

theorem daysUntil_mono : Monotone daysUntil := by
  refine monotone_nat_of_le_succ fun years => ?_
  simp only [daysUntil]
  omega

theorem daysIn_february (year : Nat) :
    daysIn year 2 = if 4 ∣ year ∧ (¬100 ∣ year ∨ 400 ∣ year) then 29 else 28 := by
  simp [daysIn, isLeap, Nat.dvd_iff_mod_eq_zero]

theorem daysUntil_succ (years : Nat) :
    daysUntil (years + 1) = daysUntil years + daysBefore (years + 1) 12 := by
  have months : daysBefore (years + 1) 12 = 337 + daysIn (years + 1) 2 := by
    simp +arith [daysBefore, daysIn, List.range_succ]
  have centuries : years / 100 ≤ years / 4 := Nat.div_le_div_left (by decide) (by decide)
  rw [months, daysIn_february]
  simp only [daysUntil, Nat.succ_div]
  -- Each of the three counts goes up in the years that its number divides.
  by_cases four : 4 ∣ years + 1
  · by_cases hundred : 100 ∣ years + 1
    · by_cases fourHundred : 400 ∣ years + 1
      · simp only [four, hundred, fourHundred, if_true, or_true, and_true]
        omega
      · simp only [four, hundred, fourHundred, if_true, if_false, not_true_eq_false, or_false,
          and_false]
        omega
    · have fourHundred : ¬400 ∣ years + 1 := mt (Nat.dvd_trans (by decide)) hundred
      simp only [four, hundred, fourHundred, if_true, if_false, not_false_eq_true, or_false,
        and_true]
      omega
  · have hundred : ¬100 ∣ years + 1 := mt (Nat.dvd_trans (by decide)) four
    have fourHundred : ¬400 ∣ years + 1 := mt (Nat.dvd_trans (by decide)) hundred
    simp only [four, hundred, fourHundred, if_false, false_and]
    omega

end Calendar

open Calendar

/-- The date is a day of the calendar. -/
structure Date.IsCivil (d : Date) : Prop where
  year : 0 < d.year
  month : 0 < d.month ∧ d.month ≤ 12
  day : 0 < d.day ∧ d.day ≤ daysIn d.year d.month

/-- The moment's date is a day and its time is one of that day. -/
structure Moment.IsCivil (m : Moment) : Prop where
  date : m.date.IsCivil
  hour : m.hour < 24
  minute : m.minute < 60
  second : m.second < 60
  microsecond : m.microsecond < 1000000

namespace Date

/-- The numbers of a date, the greatest unit first. -/
def fields (d : Date) : List Nat := [d.year, d.month, d.day]

variable {d e : Date}

theorem ordinal_eq (d : Date) :
    d.ordinal = daysUntil (d.year - 1) + daysBefore d.year (d.month - 1) + d.day := rfl

theorem IsCivil.ordinal_le_of_month (civil : d.IsCivil) :
    d.ordinal ≤ daysUntil (d.year - 1) + daysBefore d.year d.month := by
  obtain ⟨month, eq⟩ := Nat.exists_eq_add_one.mpr civil.month.1
  have day := civil.day.2
  rw [ordinal_eq, eq, daysBefore_succ, Nat.add_sub_cancel]
  rw [eq] at day
  omega

theorem IsCivil.ordinal_le_of_year (civil : d.IsCivil) : d.ordinal ≤ daysUntil d.year := by
  obtain ⟨year, eq⟩ := Nat.exists_eq_add_one.mpr civil.year
  have months : daysBefore d.year d.month ≤ daysBefore d.year 12 :=
    daysBefore_mono d.year civil.month.2
  have within := civil.ordinal_le_of_month
  rw [eq] at months within ⊢
  rw [daysUntil_succ]
  rw [Nat.add_sub_cancel] at within
  omega

theorem IsCivil.ordinal_lt_ordinal (first : d.IsCivil) (second : e.IsCivil)
    (less : d.fields < e.fields) : d.ordinal < e.ordinal := by
  have positive := second.day.1
  simp only [fields, List.cons_lt_cons_iff, List.not_lt_nil, and_false, or_false] at less
  rcases less with year | ⟨year, month | ⟨month, day⟩⟩
  · have before : daysUntil d.year ≤ daysUntil (e.year - 1) := daysUntil_mono (by omega)
    have within := first.ordinal_le_of_year
    rw [ordinal_eq e]
    omega
  · have before : daysBefore d.year d.month ≤ daysBefore d.year (e.month - 1) :=
      daysBefore_mono d.year (by omega)
    have within := first.ordinal_le_of_month
    rw [ordinal_eq e, ← year]
    omega
  · rw [ordinal_eq, ordinal_eq, year, month]
    omega

theorem eq_of_fields (same : d.fields = e.fields) : d = e := by
  cases d
  cases e
  simpa [fields] using same

end Date

/-! ### Seconds -/

namespace Moment

/-- The numbers of date and time to the second, the greatest unit first. -/
def fields (m : Moment) : List Nat := m.date.fields ++ [m.hour, m.minute, m.second]

def seconds (m : Moment) : Nat := ((m.date.ordinal * 24 + m.hour) * 60 + m.minute) * 60 + m.second

def truncated (m : Moment) : Moment := { m with microsecond := 0 }

/-- Whether a moment is earlier than another one: by their clocks where neither knows its distance
from universal time, by universal time where both do. -/
def Before (m n : Moment) : Prop :=
  match m.offset, n.offset with
  | none, none => m.ticks < n.ticks
  | some a, some b => m.ticks - a * 1000000 < n.ticks - b * 1000000
  | _, _ => False

variable {m n : Moment}

theorem IsCivil.seconds_lt_seconds (first : m.IsCivil) (second : n.IsCivil)
    (less : m.fields < n.fields) : m.seconds < n.seconds := by
  obtain ⟨civil, hour, minute, last, -⟩ := first
  have length : m.date.fields.length = n.date.fields.length := rfl
  rcases (append_lt_append_iff length _ _).mp less with date | ⟨date, time⟩
  · have days := civil.ordinal_lt_ordinal second.date date
    simp only [seconds]
    omega
  · simp only [List.cons_lt_cons_iff, List.not_lt_nil, and_false, or_false] at time
    simp only [seconds, Date.eq_of_fields date]
    omega

theorem seconds_eq_of_fields (same : m.fields = n.fields) : m.seconds = n.seconds := by
  obtain ⟨date, time⟩ := List.append_inj same rfl
  simp only [List.cons.injEq, and_true] at time
  rw [seconds, seconds, Date.eq_of_fields date, time.1, time.2.1, time.2.2]

theorem IsCivil.seconds_order (first : m.IsCivil) (second : n.IsCivil) :
    (m.seconds = n.seconds ↔ m.fields = n.fields) ∧ (m.seconds < n.seconds ↔ m.fields < n.fields) :=
  order_iff_order (first.seconds_lt_seconds second) seconds_eq_of_fields
    (second.seconds_lt_seconds first)

theorem ticks_truncated (m : Moment) : m.truncated.ticks = m.seconds * 1000000 := Int.add_zero _

theorem truncated_before_iff (clock : m.offset = n.offset) :
    m.truncated.Before n.truncated ↔ m.seconds < n.seconds := by
  have clocks : m.truncated.offset = n.truncated.offset := clock
  simp only [Before, ticks_truncated, clocks]
  cases n.truncated.offset <;> simp only <;> omega

theorem truncated_same_iff (clock : m.offset = n.offset) :
    m.truncated.same n.truncated = true ↔ m.seconds = n.seconds := by
  have clocks : m.truncated.offset = n.truncated.offset := clock
  simp only [same, ticks_truncated, clocks]
  cases n.truncated.offset <;> simp only [beq_iff_eq] <;> omega

/-! ### Digits -/

/-- How many digits each field takes. -/
def widths : List Nat := [4, 2, 2, 2, 2, 2]

theorem IsCivil.fits (civil : m.IsCivil) (year : m.date.year ≤ 9999) :
    List.Forall₂ Fits widths m.fields := by
  obtain ⟨date, hour, minute, second, -⟩ := civil
  have month := date.month.2
  have day : m.date.day ≤ 31 := date.day.2.trans (daysIn_le _ _)
  exact
    .cons ⟨by decide, by omega⟩ <| .cons ⟨by decide, by omega⟩ <| .cons ⟨by decide, by omega⟩ <|
    .cons ⟨by decide, by omega⟩ <| .cons ⟨by decide, by omega⟩ <| .cons ⟨by decide, by omega⟩ .nil

theorem toList_digits (year : 1000 ≤ m.date.year) :
    m.digits.toList = runTogether widths m.fields := by
  have unpadded : toString m.date.year = padded 4 m.date.year :=
    (padded_of_le (by decide) year).symm
  have blocks : m.digits.toList =
      (padded 4 m.date.year).toList ++ ((padded 2 m.date.month).toList ++
        ((padded 2 m.date.day).toList ++ ((padded 2 m.hour).toList ++
          ((padded 2 m.minute).toList ++ ((padded 2 m.second).toList ++ []))))) := by
    rw [digits, unpadded]
    simp [toString]
  exact blocks

theorem length_digits (civil : m.IsCivil) (least : 1000 ≤ m.date.year)
    (most : m.date.year ≤ 9999) : m.digits.length = 14 := by
  rw [← String.length_toList, toList_digits least, length_runTogether (civil.fits most)]
  rfl

theorem isDigit_of_mem_digits (least : 1000 ≤ m.date.year) {c : Char}
    (mem : c ∈ m.digits.toList) : c.isDigit = true := by
  rw [toList_digits least] at mem
  exact isDigit_of_mem_runTogether mem

theorem digits_order (first : m.IsCivil) (second : n.IsCivil)
    (years : 1000 ≤ m.date.year ∧ m.date.year ≤ 9999)
    (years' : 1000 ≤ n.date.year ∧ n.date.year ≤ 9999) :
    (m.digits = n.digits ↔ m.fields = n.fields) ∧ (m.digits < n.digits ↔ m.fields < n.fields) := by
  have fits := first.fits years.2
  have fits' := second.fits years'.2
  rw [← String.toList_inj, String.lt_iff_toList_lt, toList_digits years.1, toList_digits years'.1]
  exact order_iff_order (runTogether_lt_runTogether fits fits') (congrArg _)
    (runTogether_lt_runTogether fits' fits)

theorem digits_order_seconds (first : m.IsCivil) (second : n.IsCivil)
    (years : 1000 ≤ m.date.year ∧ m.date.year ≤ 9999)
    (years' : 1000 ≤ n.date.year ∧ n.date.year ≤ 9999) :
    (m.digits = n.digits ↔ m.seconds = n.seconds) ∧ (m.digits < n.digits ↔ m.seconds < n.seconds) := by
  obtain ⟨same, less⟩ := digits_order first second years years'
  obtain ⟨sameSecond, lessSecond⟩ := first.seconds_order second
  exact ⟨same.trans sameSecond.symm, less.trans lessSecond.symm⟩

end Moment

end Rollout
