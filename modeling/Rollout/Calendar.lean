/-!
Dates and moments of the civil calendar.

A moment is a date, a time of day to the microsecond, and the distance of its clock from universal
time, which may be unknown. Its texts are the extended one with separators and the compact one of
fourteen digits.
-/

set_option autoImplicit false
set_option relaxedAutoImplicit false

namespace Rollout

structure Date where
  year : Nat
  month : Nat
  day : Nat
  deriving DecidableEq, Repr, Inhabited

/-- A moment; `offset` is its clock's distance east of universal time in seconds. -/
structure Moment where
  date : Date
  hour : Nat
  minute : Nat
  second : Nat
  microsecond : Nat
  offset : Option Int
  deriving DecidableEq, Repr, Inhabited

namespace Calendar

def padded (width n : Nat) : String :=
  let digits := Nat.toDigits 10 n
  String.ofList (List.replicate (width - digits.length) '0' ++ digits)

def isLeap (year : Nat) : Bool := year % 4 == 0 && (year % 100 != 0 || year % 400 == 0)

def daysIn (year month : Nat) : Nat :=
  if month = 2 then if isLeap year then 29 else 28
  else if month = 4 ∨ month = 6 ∨ month = 9 ∨ month = 11 then 30
  else 31

/-- Why numbers are not a date or a time of day. -/
inductive Fault
  | year (n : Nat)
  | month
  | day
  | hour
  | minute
  | second
  | offset (seconds : Int)
  deriving DecidableEq, Repr

def spanText (seconds : Int) : String :=
  let days := seconds.fdiv 86400
  let rest := seconds.fmod 86400
  let parts :=
    (if days = 0 then [] else [s!"days={days}"]) ++ (if rest = 0 then [] else [s!"seconds={rest}"])
  "datetime.timedelta(" ++ (if parts.isEmpty then "0" else ", ".intercalate parts) ++ ")"

def Fault.message : Fault → String
  | .year n => s!"year {n} is out of range"
  | .month => "month must be in 1..12"
  | .day => "day is out of range for month"
  | .hour => "hour must be in 0..23"
  | .minute => "minute must be in 0..59"
  | .second => "second must be in 0..59"
  | .offset seconds =>
    "offset must be a timedelta strictly between -timedelta(hours=24) and timedelta(hours=24), not "
      ++ spanText seconds ++ "."

def date? (year month day : Nat) : Except Fault Date :=
  if year = 0 then .error (.year year)
  else if month = 0 ∨ month > 12 then .error .month
  else if day = 0 ∨ day > daysIn year month then .error .day
  else .ok ⟨year, month, day⟩

/-- Check that numbers are a moment; the date is checked before the time of day. -/
def moment? (year month day hour minute second microsecond : Nat) (offset : Option Int) :
    Except Fault Moment := do
  let date ← date? year month day
  if hour > 23 then .error .hour
  if minute > 59 then .error .minute
  if second > 59 then .error .second
  return ⟨date, hour, minute, second, microsecond, offset⟩

end Calendar

open Calendar (padded)

def Date.text (d : Date) : String := s!"{padded 4 d.year}-{padded 2 d.month}-{padded 2 d.day}"

/-- The distance from universal time as a sign, hours and minutes, and seconds where there are
any. -/
def Moment.offsetText (m : Moment) : String :=
  match m.offset with
  | none => ""
  | some seconds =>
    let n := seconds.natAbs
    let sign := if seconds < 0 then "-" else "+"
    let start := s!"{sign}{padded 2 (n / 3600)}:{padded 2 (n / 60 % 60)}"
    if n % 60 = 0 then start else start ++ ":" ++ padded 2 (n % 60)

def Moment.text (separator : String) (m : Moment) : String :=
  let time := s!"{padded 2 m.hour}:{padded 2 m.minute}:{padded 2 m.second}"
  let fraction := if m.microsecond = 0 then "" else "." ++ padded 6 m.microsecond
  m.date.text ++ separator ++ time ++ fraction ++ m.offsetText

/-- The digits of date and time to the second, run together; the year is not padded. -/
def Moment.digits (m : Moment) : String :=
  s!"{m.date.year}{padded 2 m.date.month}{padded 2 m.date.day}" ++
    s!"{padded 2 m.hour}{padded 2 m.minute}{padded 2 m.second}"

def Moment.stamp (m : Moment) : String :=
  s!"{m.date.text} {padded 2 m.hour}:{padded 2 m.minute}:{padded 2 m.second}," ++
    padded 3 (m.microsecond / 1000)

/-- The number of a day; the first day of year one has number one. -/
def Date.ordinal (d : Date) : Nat :=
  let before := d.year - 1
  let months := (List.range (d.month - 1)).foldl (fun n k => n + Calendar.daysIn d.year (k + 1)) 0
  before * 365 + before / 4 - before / 100 + before / 400 + months + d.day

def Date.ofOrdinal (n : Nat) : Date :=
  let early := n * 400 / 146097
  let year := early + ((List.range 2).filter fun k => Date.ordinal ⟨early + k + 1, 1, 1⟩ ≤ n).length
  let month := ((List.range 12).filter fun k => Date.ordinal ⟨year, k + 1, 1⟩ ≤ n).length
  ⟨year, month, n + 1 - Date.ordinal ⟨year, month, 1⟩⟩

def Moment.ofSeconds (seconds microsecond : Nat) : Moment :=
  let date := Date.ofOrdinal (Date.ordinal ⟨1970, 1, 1⟩ + seconds / 86400)
  ⟨date, seconds / 3600 % 24, seconds / 60 % 60, seconds % 60, microsecond, some 0⟩

def Moment.ticks (m : Moment) : Int :=
  ((((m.date.ordinal * 24 + m.hour) * 60 + m.minute) * 60 + m.second : Nat) : Int) * 1000000
    + m.microsecond

/-- Whether two moments are the same: by their clocks where neither knows its distance from
universal time, by universal time where both do. -/
def Moment.same (m n : Moment) : Bool :=
  match m.offset, n.offset with
  | none, none => m.ticks == n.ticks
  | some a, some b => m.ticks - a * 1000000 == n.ticks - b * 1000000
  | _, _ => false

example : Moment.text "T" ⟨⟨2024, 5, 6⟩, 7, 8, 9, 123456, some 0⟩ =
    "2024-05-06T07:08:09.123456+00:00" := by decide +kernel

example : Moment.ofSeconds 1714979289 123456 = ⟨⟨2024, 5, 6⟩, 7, 8, 9, 123456, some 0⟩ := by
  decide +kernel

example : Moment.digits ⟨⟨42, 3, 4⟩, 5, 6, 7, 0, none⟩ = "420304050607" := by decide +kernel

end Rollout
