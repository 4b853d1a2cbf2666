import Rollout.Context
import Rollout.Proofs.Calendar.Clock
import Rollout.Proofs.Plan.Overriding

/-!
The ids of rollouts.

A rollout is known by the moment at which its context was made, to the second and without separators.
As long as years have four digits, a list of ids in the order of texts is in the order of time.
-/

set_option autoImplicit false
set_option relaxedAutoImplicit false

namespace Rollout

namespace Context

variable {disk : Disk} {environment : Environment} {now : Moment} {context : Context}

theorem named_of_load (loaded : load disk environment now = .ok context) :
    context.runId = now.digits ∧ context.timestamp = now := by
  obtain ⟨settings, -, loaded⟩ := exists_ok_of_bind loaded
  obtain ⟨plan, -, loaded⟩ := exists_ok_of_bind loaded
  cases loaded
  exact ⟨rfl, rfl⟩

/-- A context is made when a clock has told so many seconds since the start of 1970. -/
def MadeAt (context : Context) (seconds : Nat) : Prop :=
  ∃ disk environment microsecond, microsecond < 1000000 ∧
    load disk environment (.ofSeconds seconds microsecond) = .ok context

theorem runId_order {later : Context} {seconds seconds' : Nat} (time : seconds < 253402300800)
    (time' : seconds' < 253402300800) (made : context.MadeAt seconds)
    (madeLater : later.MadeAt seconds') :
    (context.runId = later.runId ↔ seconds = seconds') ∧
      (context.runId < later.runId ↔ seconds < seconds') := by
  obtain ⟨_, _, microsecond, fraction, loaded⟩ := made
  obtain ⟨_, _, microsecond', fraction', loaded'⟩ := madeLater
  have first := Moment.isCivil_ofSeconds seconds fraction
  have second := Moment.isCivil_ofSeconds seconds' fraction'
  obtain ⟨same, less⟩ := Moment.digits_order_seconds first second
    (Moment.year_ofSeconds time microsecond) (Moment.year_ofSeconds time' microsecond')
  rw [(named_of_load loaded).1, (named_of_load loaded').1, same, less, Moment.seconds_ofSeconds,
    Moment.seconds_ofSeconds]
  exact ⟨Nat.add_left_cancel_iff, Nat.add_lt_add_iff_left⟩

end Context

namespace Moment

/-- Run ids have fourteen digits. They are the same if the moments agree to the second, and else they
are in the order of the moments' fields, which is that of time for moments of one clock. So up to the
end of 9999 the ids of rollouts are in the order of what the clock told when they began. -/
theorem digits_sort_like_time (m n : Moment) (first : m.IsCivil) (second : n.IsCivil)
    (years : 1000 ≤ m.date.year ∧ m.date.year ≤ 9999)
    (years' : 1000 ≤ n.date.year ∧ n.date.year ≤ 9999) :
    (m.digits.length = 14 ∧ ∀ c ∈ m.digits.toList, c.isDigit = true) ∧
    (m.digits = n.digits ↔ m.fields = n.fields) ∧
    (m.digits < n.digits ↔ m.fields < n.fields) ∧
    (m.offset = n.offset →
      (m.digits = n.digits ↔ m.truncated.same n.truncated = true) ∧
      (m.digits < n.digits ↔ m.truncated.Before n.truncated)) ∧
    (∀ disk environment context, Context.load disk environment m = .ok context →
      context.runId = m.digits ∧ context.timestamp = m) ∧
    ∀ (context later : Context) (seconds seconds' : Nat), seconds < 253402300800 →
      seconds' < 253402300800 → context.MadeAt seconds → later.MadeAt seconds' →
        (context.runId = later.runId ↔ seconds = seconds') ∧
        (context.runId < later.runId ↔ seconds < seconds') := by
  obtain ⟨same, less⟩ := digits_order first second years years'
  obtain ⟨sameSecond, lessSecond⟩ := digits_order_seconds first second years years'
  refine ⟨⟨length_digits first years.1 years.2, fun c => isDigit_of_mem_digits years.1⟩, same, less,
    fun clock => ⟨?_, ?_⟩, fun disk environment context => Context.named_of_load,
    fun context later seconds seconds' => Context.runId_order⟩
  · exact sameSecond.trans (truncated_same_iff clock).symm
  · exact lessSecond.trans (truncated_before_iff clock).symm

/-- The last second of a year and the first one of the next year. -/
theorem digits_sort_at_new_year :
    let last : Moment := ⟨⟨1999, 12, 31⟩, 23, 59, 59, 999999, some 0⟩
    let first : Moment := ⟨⟨2000, 1, 1⟩, 0, 0, 0, 1, some 0⟩
    last.digits.length = 14 ∧ last.digits < first.digits ∧ last.digits ≠ first.digits ∧
      last.truncated.Before first.truncated := by
  intro last first
  have civil : last.IsCivil := ⟨⟨by decide, by decide, by decide⟩, by decide, by decide, by decide,
    by decide⟩
  have civil' : first.IsCivil := ⟨⟨by decide, by decide, by decide⟩, by decide, by decide,
    by decide, by decide⟩
  obtain ⟨⟨length, -⟩, same, less, time, -, -⟩ :=
    digits_sort_like_time last first civil civil' (by decide) (by decide)
  have before : last.digits < first.digits := less.mpr (by decide)
  have distinct : last.digits ≠ first.digits := mt same.mp (by decide)
  exact ⟨length, before, distinct, (time rfl).2.mp before⟩

end Moment

end Rollout
