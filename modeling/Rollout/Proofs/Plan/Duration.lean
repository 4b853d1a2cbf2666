import Rollout.Proofs.Number.Infinity
import Rollout.Proofs.Plan.Spelling

/-!
Durations.

A timeout should be a finite number greater than zero, and a value that is none should be refused with
a plan fault. Three kinds of values slip through: those that are read as infinity, whole numbers beyond
the range of numbers, and collections that cannot be written. All that is
given by the environment is a text, and of texts only those slip through that name infinity.
-/

set_option autoImplicit false
set_option relaxedAutoImplicit false

namespace Rollout

open Number (Binary64 NamesInfinity)

namespace Number.Binary64

/-- A duration that can be waited for: it is finite and greater than zero. -/
def IsUsable (x : Binary64) : Prop := ∃ mantissa scale, mantissa ≠ 0 ∧ x = .finite false mantissa scale

theorem usable_or_endless {x : Binary64} (positive : x.isPositive = true) :
    x.IsUsable ∨ x = .infinite false := by
  cases x with
  | nan => cases positive
  | infinite negative =>
    cases negative with
    | true => cases positive
    | false => exact .inr rfl
  | finite negative mantissa scale =>
    simp only [isPositive, Bool.and_eq_true, Bool.not_eq_true', bne_iff_ne] at positive
    obtain ⟨rfl, nonzero⟩ := positive
    exact .inl ⟨mantissa, scale, nonzero, rfl⟩

end Number.Binary64

namespace Value

/-- A value holds a text that is read as a numeral. -/
inductive Spells : Value → String → Prop
  | text (s : String) : Spells (.text s) s
  | bytes {bs : List UInt8} : bs.all (· < 128) = true →
      Spells (.bytes bs) (String.ofList (bs.map fun b => Char.ofNat b.toNat))

/-- A value that is read as infinity: that itself, or a text that names it. -/
def IsEndless (raw : Value) : Prop :=
  raw = .float (.infinite false) ∨ ∃ s, raw.Spells s ∧ NamesInfinity s

theorem number?_of_spells {raw : Value} {s : String} (spells : raw.Spells s) :
    raw.number? = .ok (Number.decimal? s) := by
  unfold number?
  generalize Binary64.ofInt? = made?
  cases spells with
  | text => rfl
  | bytes plain => exact congrArg Except.ok (if_pos plain)

theorem number?_cases {raw : Value} {x : Binary64} (read : raw.number? = .ok (some x)) :
    raw = .float x ∨ (∃ i, (raw = .int i ∨ ∃ b, raw = .bool b) ∧ Binary64.ofInt? i = some x) ∨
      ∃ s, raw.Spells s ∧ Number.decimal? s = some x := by
  unfold number? at read
  -- What number a whole number is made is left open, so that none is computed.
  obtain ⟨made?, same⟩ : ∃ made?, made? = Binary64.ofInt? := ⟨_, rfl⟩
  rw [← same] at read ⊢
  cases raw with
  | bool b => exact .inr (.inl ⟨_, .inr ⟨b, rfl⟩, Except.ok.inj read⟩)
  | int i =>
    cases made : made? i with
    | none => simp [made] at read
    | some y =>
      simp only [made, Except.ok.injEq] at read
      exact .inr (.inl ⟨i, .inl rfl, made.trans read⟩)
  | float y => exact .inl (congrArg float (Option.some.inj (Except.ok.inj read)))
  | text s => exact .inr (.inr ⟨s, .text s, Except.ok.inj read⟩)
  | bytes bs =>
    dsimp only at read
    split_ifs at read with plain
    · exact .inr (.inr ⟨_, .bytes plain, Except.ok.inj read⟩)
    · cases read
  | _ => cases read

theorem number?_eq_infinite_iff (raw : Value) :
    raw.number? = .ok (some (.infinite false)) ↔ raw.IsEndless := by
  constructor
  · intro read
    rcases number?_cases read with rfl | ⟨i, -, made⟩ | ⟨s, spells, named⟩
    · exact .inl rfl
    · rcases Binary64.ofInt?_cases i with ⟨-, none⟩ | ⟨-, _, _, _, -, finite⟩
      · cases none.symm.trans made
      · cases finite.symm.trans made
    · exact .inr ⟨s, spells, (Number.decimal?_eq_infinite_iff s).mp named⟩
  · rintro (rfl | ⟨s, spells, named⟩)
    · unfold number?
      generalize Binary64.ofInt? = made?
      rfl
    · rw [number?_of_spells spells, (Number.decimal?_eq_infinite_iff s).mpr named]

theorem isNumber_of_number? {raw : Value} {x : Binary64} (read : raw.number? = .ok (some x))
    (given : ∀ y, raw = .float y → y.IsNumber) : x.IsNumber := by
  rcases number?_cases read with rfl | ⟨i, -, made⟩ | ⟨s, -, named⟩
  · exact given x rfl
  · rcases Binary64.ofInt?_cases i with ⟨-, none⟩ | ⟨-, negative, _, _, formed, finite⟩
    · cases none.symm.trans made
    · cases finite.symm.trans made
      exact .finite negative formed
  · exact Number.isNumber_of_decimal named

theorem writable_of_number? {raw : Value} {x : Binary64} (read : raw.number? = .ok (some x)) :
    raw.writingFault? = none := by
  rcases number?_cases read with rfl | ⟨i, rfl | ⟨b, rfl⟩, made⟩ | ⟨s, spells, -⟩
  · rfl
  · rcases Binary64.ofInt?_cases i with ⟨-, none⟩ | ⟨within, -⟩
    · cases none.symm.trans made
    · exact if_neg (by rw [Binary64.isOversized_of_lt within]; decide)
  · rfl
  · cases spells <;> rfl

theorem ne_int_of_number? {raw : Value} (read : raw.number? = .ok none) (i : Int) : raw ≠ .int i := by
  unfold number? at read
  obtain ⟨made?, same⟩ : ∃ made?, made? = Binary64.ofInt? := ⟨_, rfl⟩
  rw [← same] at read
  rintro rfl
  cases made : made? i <;> simp [made] at read

end Value

namespace Plan

/-- The answers about timeouts that are neither a usable duration nor a plan fault. -/
inductive Slips (raw : Value) : Except Rollout.Fault Binary64 → Prop
  | endless : raw.IsEndless → Slips raw (.ok (.infinite false))
  | overflow {i : Int} : raw = .int i → Binary64.overflow ≤ i.natAbs →
      Slips raw (.error (.value .overflow))
  | unwritable {fault : Value.Fault} : raw.writingFault? = some fault → (∀ i, raw ≠ .int i) →
      Slips raw (.error (.value fault))

theorem timeout?_of_slips {raw : Value} {answer : Except Rollout.Fault Binary64}
    (slips : Slips raw answer) (label : String) : timeout? raw label = answer := by
  rw [timeout?_eq]
  cases slips with
  | endless endless =>
    rw [(raw.number?_eq_infinite_iff).mpr endless]
    rfl
  | @overflow i whole beyond =>
    have unmade : raw.number? = .error .overflow :=
      number?_eq_error_iff.mpr ⟨i, whole, Binary64.ofInt?_eq_none_iff.mpr beyond, rfl⟩
    rw [unmade]
  | unwritable fault? unwhole =>
    have unread : raw.number? = .ok none := by
      unfold Value.number?
      generalize Binary64.ofInt? = made?
      cases raw with
      | int i => exact absurd rfl (unwhole i)
      | null | codes | date | moment | list | pair | set | map | knot | again => rfl
      | _ => cases fault?
    rw [unread]
    dsimp only
    rw [Value.quote?_of_unwritable fault?]
    rfl

def IsProper (answer : Except Rollout.Fault Binary64) : Prop :=
  (∃ seconds, answer = .ok seconds ∧ seconds.IsUsable) ∨ ∃ told, answer = .error (.plan told)

theorem Slips.not_isProper {raw : Value} {answer : Except Rollout.Fault Binary64}
    (slips : Slips raw answer) : ¬IsProper answer := by
  rintro (⟨seconds, made, _, _, -, finite⟩ | ⟨told, failed⟩)
  · cases slips <;> cases made
    cases finite
  · cases slips <;> cases failed

/-- What is told of a value that is no timeout: it is no number, or not greater than zero. -/
def IsRefusal (label : String) (raw : Value) (told : Plan.Fault) : Prop :=
  told = .unreadableTimeout label raw.quote ∨ told = .timeoutNotPositive label raw.quote

theorem timeout?_cases (raw : Value) (label : String) :
    (∃ seconds, timeout? raw label = .ok seconds ∧ seconds.IsUsable) ∨
      (∃ told, timeout? raw label = .error (.plan told) ∧ IsRefusal label raw told) ∨
      Slips raw (timeout? raw label) := by
  have slipped {answer : Except Rollout.Fault Binary64} (slips : Slips raw answer) :
      Slips raw (timeout? raw label) := (timeout?_of_slips slips label).symm ▸ slips
  rcases read : raw.number? with unmade | _ | seconds
  · obtain ⟨i, whole, none, rfl⟩ := number?_eq_error_iff.mp read
    exact .inr (.inr (slipped (.overflow whole (Binary64.ofInt?_eq_none_iff.mp none))))
  · cases fault? : raw.writingFault? with
    | some fault =>
      exact .inr (.inr (slipped (.unwritable fault? (Value.ne_int_of_number? read))))
    | none =>
      refine .inr (.inl ⟨.unreadableTimeout label raw.quote, ?_, .inl rfl⟩)
      rw [timeout?_eq, read]
      dsimp only
      rw [Value.quote?_of_writable fault?]
      rfl
  · cases positive : seconds.isPositive with
    | true =>
      rcases Binary64.usable_or_endless positive with usable | rfl
      · refine .inl ⟨seconds, ?_, usable⟩
        rw [timeout?_eq, read]
        exact if_pos positive
      · exact .inr (.inr (slipped (.endless (raw.number?_eq_infinite_iff.mp read))))
    | false =>
      refine .inr (.inl ⟨.timeoutNotPositive label raw.quote, ?_, .inr rfl⟩)
      rw [timeout?_eq, read]
      dsimp only
      rw [if_neg (positive ▸ nofun), Value.quote?_of_writable (Value.writable_of_number? read)]
      rfl

theorem usable_of_timeout {raw : Value} {label : String} {seconds : Binary64}
    (read : timeout? raw label = .ok seconds) :
    seconds.IsUsable ∨ seconds = .infinite false ∧ raw.IsEndless := by
  obtain ⟨made, positive⟩ := number_of_timeout read
  rcases Binary64.usable_or_endless positive with usable | rfl
  · exact .inl usable
  · exact .inr ⟨rfl, raw.number?_eq_infinite_iff.mp made⟩

/-! ### Plan files -/

theorem timeout_of_payload {make : String} {payload : Value} {plan : Plan}
    (accepted : ofPayload make payload = .ok plan) :
    let raw := timeoutOf (fieldsOf payload)
    raw = .null ∧ plan.timeout = none ∨
      ∃ seconds, timeout? raw "timeout" = .ok seconds ∧ plan.timeout = some seconds := by
  intro raw
  obtain ⟨entries, _, base, _, timeout, whole, -, -, overridden, -, timed, rfl⟩ :=
    ofPayload_eq_ok_iff.mp accepted
  have fields : raw = timeoutOf entries :=
    congrArg timeoutOf (fieldsOf_eq (laysOut_iff.mpr whole))
  have usualTimeout : base.timeout = none := timeout_of_overrideAll overridden
  rw [fields]
  by_cases none : timeoutOf entries = .null
  · exact .inl ⟨none, (timeout_of_null timed none).trans usualTimeout⟩
  · rw [timeoutIn_of_given none] at timed
    cases read : timeout? (timeoutOf entries) "timeout" with
    | error fault =>
      rw [read] at timed
      cases timed
    | ok seconds =>
      rw [read] at timed
      cases timed
      exact .inr ⟨seconds, rfl, rfl⟩

theorem ofPayload_timed (make : String) (around : Around) {raw : Value} {plan : Plan}
    (given : raw ≠ .null) (distinct : Value.Distinct (around.entries "timeout" raw))
    (accepted : ofPayload make (around.holding "timeout" .null) = .ok plan) :
    ofPayload make (around.holding "timeout" raw) =
      (timeout? raw "timeout").map fun seconds => { plan with timeout := some seconds } := by
  obtain ⟨entries, steps, base, parameter, timeout, whole, listed, known, overridden, named, -, rfl⟩ :=
    ofPayload_eq_ok_iff.mp accepted
  cases (around.entries?_holding "timeout" .null).symm.trans whole
  have timed : timeoutOf (around.entries "timeout" raw) = raw := by
    rw [timeoutOf, around.get?_entries_of_distinct _ _ distinct]
    rfl
  have sameSteps : Value.get? (around.entries "timeout" raw) "steps" =
      Value.get? (around.entries "timeout" .null) "steps" :=
    around.get?_entries_of_ne "timeout" raw .null (by decide)
  have sameParameter : parameterIn base (around.entries "timeout" raw) = .ok parameter := by
    rw [← named, parameterIn, parameterIn,
      around.given?_entries_of_ne "timeout" raw .null (by decide)]
  rw [ofPayload_eq, around.entries?_holding]
  simp only [sameSteps, listed, known, overridden, bind, Except.bind, sameParameter,
    timeoutIn_of_given (timed.symm ▸ given), timed]
  cases timeout? raw "timeout" <;> rfl

theorem timeout_of_load {disk : Disk} {make : String} {path? : Option Path} {plan : Plan}
    (loaded : load disk make path? = .ok plan) {seconds : Binary64}
    (timed : plan.timeout = some seconds) :
    seconds.IsUsable ∨ seconds = .infinite false ∧ ∃ path payload,
      path? = some path ∧ Holds disk path payload ∧ (timeoutOf (fieldsOf payload)).IsEndless := by
  cases path? with
  | none =>
    cases loaded
    cases timed
  | some path =>
    rw [load] at loaded
    obtain ⟨present, there, loaded⟩ := exists_ok_of_bind loaded
    cases present with
    | false => cases loaded
    | true =>
      obtain ⟨bytes, held, loaded⟩ := exists_ok_of_bind loaded
      obtain ⟨payload, parsed, loaded⟩ := exists_ok_of_bind loaded
      rcases timeout_of_payload loaded with ⟨-, none⟩ | ⟨seconds', read, given⟩
      · cases none.symm.trans timed
      · cases given.symm.trans timed
        have holds : Holds disk path payload :=
          ⟨ok_of_mapError there, bytes, ok_of_mapError held, parsed⟩
        refine (usable_of_timeout read).imp_right ?_
        rintro ⟨endless, named⟩
        exact ⟨endless, path, payload, rfl, holds, named⟩

theorem Slips.of_text {s : String} {answer : Except Rollout.Fault Binary64}
    (slips : Slips (.text s) answer) : NamesInfinity s ∧ answer = .ok (.infinite false) := by
  cases slips with
  | endless endless =>
    rcases endless with same | ⟨t, ⟨⟩, named⟩
    · cases same
    · exact ⟨named, rfl⟩
  | overflow whole => cases whole
  | unwritable fault? => cases fault?

end Plan

end Rollout
