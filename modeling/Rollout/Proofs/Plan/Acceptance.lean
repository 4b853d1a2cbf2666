import Rollout.Proofs.Plan.Soundness

/-!
Which values of plan files are plans.

A plan file is looked at from the whole to the parts: its own shape, the shape of its steps, all
names of steps together, the settings of the steps in their order, the timeout. What is refused first
is told, and a value in which nothing is refused is a plan.
-/

set_option autoImplicit false
set_option relaxedAutoImplicit false

namespace Rollout.Plan

/-- A value has entries, and among them steps. -/
structure Lists (payload : Value) (entries steps : List (Value × Value)) : Prop where
  whole : payload.LaysOut entries
  steps : ((Value.get? entries "steps").getD .null).LaysOut steps

def AllSound (steps : List (Value × Value)) : Prop := ∀ entry ∈ steps, IsSoundStep entry.2

instance (steps : List (Value × Value)) : Decidable (AllSound steps) :=
  inferInstanceAs (Decidable (∀ entry ∈ steps, IsSoundStep entry.2))

/-- A value is sound: it is a mapping, its steps are a mapping under the names of the steps, the
settings of each of them are sound, and its timeout is null or a duration. -/
def IsSound (payload : Value) : Prop :=
  ∃ entries steps, Lists payload entries steps ∧ AllKnown steps ∧ AllSound steps ∧
    (timeoutOf entries = .null ∨ IsDuration (timeoutOf entries))

/-- What is refused first of a value. -/
inductive Refusal (payload : Value) : Rollout.Fault → Prop
  | notMapping : (∀ entries, ¬payload.LaysOut entries) → Refusal payload (.plan .notMapping)
  | stepsNotMapping {entries : List (Value × Value)} : payload.LaysOut entries →
      (∀ steps, ¬((Value.get? entries "steps").getD .null).LaysOut steps) →
      Refusal payload (.plan .stepsNotMapping)
  | unknownSteps {entries steps : List (Value × Value)} {names : List String} :
      Lists payload entries steps → unknownKeys steps ≠ [] → ToldNames names (unknownKeys steps) →
      Refusal payload (.plan (.unknownSteps names))
  | step {entries steps : List (Value × Value)} {step : Step} {settings : Value}
      {fault : Rollout.Fault} :
      Lists payload entries steps → AllKnown steps → Reaches steps (.text step.name, settings) →
      StepRefusal step.name settings fault → Refusal payload fault
  | timeout {entries steps : List (Value × Value)} {fault : Rollout.Fault} :
      Lists payload entries steps → AllKnown steps → AllSound steps → timeoutOf entries ≠ .null →
      DurationRefusal "timeout" (timeoutOf entries) fault → Refusal payload fault

/-- The values that are written while the entries and the steps of a plan file are read, in their
order: keys that are no names of steps; what the settings of the steps write, up to the first that are
not sound; the parameter, if all of them are; and a timeout that is told. -/
def writtenIn (entries steps : List (Value × Value)) : List Value :=
  unknownKeys steps ++
    if AllKnown steps then
      writtenInSteps steps ++
        if AllSound steps then (given? entries "parameter").toList ++ writtenInTimeout entries else []
    else []

/-- The values that are written while a plan is read. -/
def written (payload : Value) : List Value :=
  match entries? (orEmpty payload) with
  | none => []
  | some entries =>
    match entries? (orEmpty ((Value.get? entries "steps").getD .null)) with
    | none => []
    | some steps => writtenIn entries steps

theorem Lists.alone {payload : Value} {entries steps others further : List (Value × Value)}
    (lists : Lists payload entries steps) (same : Lists payload others further) :
    others = entries ∧ further = steps := by
  obtain rfl : others = entries := laysOut_unique lists.whole same.whole
  exact ⟨rfl, laysOut_unique lists.steps same.steps⟩

theorem written_of_lists {payload : Value} {entries steps : List (Value × Value)}
    (lists : Lists payload entries steps) : written payload = writtenIn entries steps := by
  simp only [written, laysOut_iff.mp lists.whole, laysOut_iff.mp lists.steps]

theorem decides_of_unlisted {payload : Value} {fault : Rollout.Fault}
    (none : written payload = []) (unlisted : ∀ entries steps, ¬Lists payload entries steps)
    (here : Refusal payload fault) (alone : ∀ other, Refusal payload other → other = fault) :
    Decides (written payload) (IsSound payload) (Refusal payload)
      (.error fault : Except Rollout.Fault Plan) := by
  refine .of_error (by rw [none]; rfl) ?_ here alone
  rintro ⟨entries, steps, lists, -⟩
  exact unlisted entries steps lists

section Listed

variable {payload : Value} {entries steps : List (Value × Value)}

theorem isSound_iff (lists : Lists payload entries steps) :
    IsSound payload ↔ AllKnown steps ∧ AllSound steps ∧
      (timeoutOf entries = .null ∨ IsDuration (timeoutOf entries)) := by
  constructor
  · rintro ⟨others, further, same, known, sound, timeout⟩
    obtain ⟨rfl, rfl⟩ := lists.alone same
    exact ⟨known, sound, timeout⟩
  · rintro ⟨known, sound, timeout⟩
    exact ⟨entries, steps, lists, known, sound, timeout⟩

theorem refusal_iff (lists : Lists payload entries steps) (fault : Rollout.Fault) :
    Refusal payload fault ↔
      (unknownKeys steps ≠ [] ∧
        ∃ names, ToldNames names (unknownKeys steps) ∧ fault = .plan (.unknownSteps names)) ∨
      AllKnown steps ∧
        ((∃ settings, ∃ step : Step, Reaches steps (.text step.name, settings) ∧
            StepRefusal step.name settings fault) ∨
          AllSound steps ∧ timeoutOf entries ≠ .null ∧
            DurationRefusal "timeout" (timeoutOf entries) fault) := by
  constructor
  · intro refused
    cases refused with
    | notMapping missing => exact absurd lists.whole (missing _)
    | stepsNotMapping laid missing =>
      have whole := laysOut_unique lists.whole laid
      exact absurd (whole ▸ lists.steps) (missing _)
    | unknownSteps same strange told =>
      obtain ⟨rfl, rfl⟩ := lists.alone same
      exact .inl ⟨strange, _, told, rfl⟩
    | step same known reached refused =>
      obtain ⟨rfl, rfl⟩ := lists.alone same
      exact .inr ⟨known, .inl ⟨_, _, reached, refused⟩⟩
    | timeout same known sound given refused =>
      obtain ⟨rfl, rfl⟩ := lists.alone same
      exact .inr ⟨known, .inr ⟨sound, given, refused⟩⟩
  · rintro (⟨strange, names, told, rfl⟩ | ⟨known, ⟨settings, step, reached, refused⟩ |
      ⟨sound, given, refused⟩⟩)
    · exact .unknownSteps lists strange told
    · exact .step lists known reached refused
    · exact .timeout lists known sound given refused

end Listed

theorem decides_ofPayload (make : String) (payload : Value) :
    Decides (written payload) (IsSound payload) (Refusal payload) (ofPayload make payload) := by
  rw [ofPayload_eq]
  cases foundEntries : entries? (orEmpty payload) with
  -- Without entries there are no steps either, and nothing else is refused.
  | none =>
    have unlaid : ∀ entries, ¬payload.LaysOut entries := fun _ laid =>
      entries?_ne_none laid foundEntries
    refine decides_of_unlisted (by simp only [written, foundEntries])
      (fun entries _ lists => unlaid entries lists.whole) (.notMapping unlaid) fun other refused => ?_
    cases refused with
    | notMapping => rfl
    | stepsNotMapping laid => exact absurd laid (unlaid _)
    | unknownSteps lists | step lists | timeout lists => exact absurd lists.whole (unlaid _)
  | some entries =>
    have laid : payload.LaysOut entries := laysOut_iff.mpr foundEntries
    dsimp only
    cases foundSteps : entries? (orEmpty ((Value.get? entries "steps").getD .null)) with
    | none =>
      have unlaid : ∀ {others}, payload.LaysOut others →
          ∀ steps, ¬((Value.get? others "steps").getD .null).LaysOut steps := by
        intro others other steps laidSteps
        obtain rfl : entries = others := laysOut_unique other laid
        exact entries?_ne_none laidSteps foundSteps
      refine decides_of_unlisted (by simp only [written, foundEntries, foundSteps])
        (fun _ _ lists => unlaid lists.whole _ lists.steps) (.stepsNotMapping laid (unlaid laid))
        fun other refused => ?_
      cases refused with
      | notMapping missing => exact absurd laid (missing _)
      | stepsNotMapping => rfl
      | unknownSteps lists | step lists | timeout lists =>
        exact absurd lists.steps (unlaid lists.whole _)
    | some steps =>
      have lists : Lists payload entries steps := ⟨laid, laysOut_iff.mpr foundSteps⟩
      -- The parts decide one after the other, in the order in which they are read.
      have decides := (decides_refuseUnknown steps).bind fun _ accepted =>
        have known := ((decides_refuseUnknown steps).exists_ok_iff.mp ⟨_, accepted⟩).2
        (decides_overrideAll (isNamed_usual make) known).bind fun plan _ =>
          (decides_field entries "parameter" id plan.parameter).bind fun parameter _ =>
            (decides_timeout plan entries).map fun timeout =>
              { plan with parameter := parameter, timeout := timeout }
      simp only [true_and, false_or, if_true] at decides
      simp only [parameterIn_eq]
      exact decides.of_iff (written_of_lists lists) (isSound_iff lists) (refusal_iff lists)

/-- What is refused of a value without a plan fault: the line of a command that cannot be split, or a
timeout that is a whole number out of range. -/
inductive Unforeseen (payload : Value) : Rollout.Fault → Prop
  | unsplit {entries steps fields : List (Value × Value)} {step : Step} {settings raw : Value}
      {s : String} {fault : Text.Words.Fault} : Lists payload entries steps → AllKnown steps →
      Reaches steps (.text step.name, settings) → settings.LaysOut fields →
      Value.get? fields "command" = some raw → wording raw = .line s →
      Text.Words.split s = .error fault → Unforeseen payload (.words fault)
  | outOfRange {entries steps : List (Value × Value)} {i : Int} : Lists payload entries steps →
      AllKnown steps → AllSound steps → timeoutOf entries = .int i →
      Number.Binary64.ofInt? i = none → Unforeseen payload (.value .overflow)

theorem Refusal.plan_or_unforeseen {payload : Value} {fault : Rollout.Fault}
    (refused : Refusal payload fault) : (∃ told, fault = .plan told) ∨ Unforeseen payload fault := by
  cases refused with
  | notMapping | stepsNotMapping | unknownSteps => exact .inl ⟨_, rfl⟩
  | step lists known reached refused =>
    cases refused with
    | notMapping => exact .inl ⟨_, rfl⟩
    | @command _ raw _ laid held refused =>
      unfold CommandRefusal at refused
      cases worded : wording raw with
      | line s =>
        simp only [worded] at refused
        obtain ⟨unsplit, failed, rfl⟩ | ⟨-, rfl⟩ := refused
        · exact .inr (.unsplit lists known reached laid held worded failed)
        · exact .inl ⟨_, rfl⟩
      | row items =>
        simp only [worded] at refused
        exact .inl ⟨_, refused.2⟩
      | neither =>
        simp only [worded] at refused
        exact .inl ⟨_, refused⟩
  | @timeout entries _ _ lists known sound _ refused =>
    unfold DurationRefusal at refused
    cases made : (timeoutOf entries).number? with
    | error unmade =>
      simp only [made] at refused
      obtain ⟨i, whole, outside, rfl⟩ := number?_eq_error_iff.mp made
      rw [refused]
      exact .inr (.outOfRange lists known sound whole outside)
    | ok number? =>
      cases number? with
      | none =>
        simp only [made] at refused
        exact .inl ⟨_, refused⟩
      | some seconds =>
        simp only [made] at refused
        exact .inl ⟨_, refused.2⟩

theorem Unforeseen.refusal {payload : Value} {fault : Rollout.Fault}
    (unforeseen : Unforeseen payload fault) : Refusal payload fault := by
  cases unforeseen with
  | unsplit lists known reached laid held worded failed =>
    refine .step lists known reached (.command laid held ?_)
    unfold CommandRefusal
    rw [worded]
    exact .inl ⟨_, failed, rfl⟩
  | @outOfRange entries _ _ lists known sound whole outside =>
    refine .timeout lists known sound (whole ▸ nofun) ?_
    unfold DurationRefusal
    have unmade : (timeoutOf entries).number? = .error .overflow :=
      number?_eq_error_iff.mpr ⟨_, whole, outside, rfl⟩
    rw [unmade]

theorem Reaches.mem {steps : List (Value × Value)} {entry : Value × Value}
    (reached : Reaches steps entry) : entry ∈ steps := by
  obtain ⟨front, rest, rfl, -⟩ := reached
  exact List.mem_append_right front List.mem_cons_self

/-- A value can be read: each command that is a line splits into words, a timeout that is a whole
number is in range, and all that is written can be: no whole number in it is too long, and no
collections lie too deep in each other. -/
structure IsReadable (payload : Value) : Prop where
  splits {entries steps settings : List (Value × Value)} {entry : Value × Value} {raw : Value}
    {s : String} : Lists payload entries steps → entry ∈ steps → entry.2.LaysOut settings →
    Value.get? settings "command" = some raw → wording raw = .line s →
    ∃ words, Text.Words.split s = .ok words
  inRange {entries : List (Value × Value)} {i : Int} : payload.LaysOut entries →
    timeoutOf entries = .int i → Number.Binary64.ofInt? i ≠ none
  writable {v : Value} : v ∈ written payload → v.writingFault? = none

theorem IsReadable.plan_of_refusal {payload : Value} (readable : IsReadable payload)
    {fault : Rollout.Fault} (refused : Refusal payload fault) : ∃ told, fault = .plan told := by
  refine refused.plan_or_unforeseen.resolve_right fun unforeseen => ?_
  cases unforeseen with
  | unsplit lists _ reached laid held worded failed =>
    obtain ⟨words, split⟩ := readable.splits lists reached.mem laid held worded
    cases failed.symm.trans split
  | outOfRange lists _ _ whole outside => exact readable.inRange lists.whole whole outside

theorem load_of_read {disk : Disk} {path : Path} {bytes : List UInt8} {payload : Value}
    (make : String) (present : disk.hasEntry path = .ok true) (held : disk.read path = .ok bytes)
    (read : Plan.payload bytes = .ok payload) :
    load disk make (some path) = ofPayload make payload := by
  dsimp only [load]
  rw [present, held]
  exact congrArg (· >>= ofPayload make) read

/-- A file holds a value. -/
def Holds (disk : Disk) (path : Path) (payload : Value) : Prop :=
  disk.hasEntry path = .ok true ∧
    ∃ bytes, disk.read path = .ok bytes ∧ Plan.payload bytes = .ok payload

theorem Holds.load_eq {disk : Disk} {path : Path} {payload : Value} (holds : Holds disk path payload)
    (make : String) : load disk make (some path) = ofPayload make payload := by
  obtain ⟨present, bytes, held, read⟩ := holds
  exact load_of_read make present held read

/-- A value that can be read is a plan exactly if it is sound; else a plan fault tells what is refused
first. A file that holds the value is read alike. -/
theorem accepts_exactly_sound (make : String) {payload : Value} (readable : IsReadable payload) :
    ((∃ plan, ofPayload make payload = .ok plan) ↔ IsSound payload) ∧
      (¬IsSound payload →
        ∃ told, Refusal payload (.plan told) ∧ ofPayload make payload = .error (.plan told)) ∧
      (∀ fault, Refusal payload fault → ofPayload make payload = .error fault) ∧
      ∀ (disk : Disk) (path : Path) (bytes : List UInt8), disk.hasEntry path = .ok true →
        disk.read path = .ok bytes → Plan.payload bytes = .ok payload →
        load disk make (some path) = ofPayload make payload := by
  have writable : unwritten? (written payload) = none :=
    unwritten?_eq_none_iff.mpr fun _ => readable.writable
  have decides := decides_ofPayload make payload
  refine ⟨?_, ?_, decides.of_refused writable, fun disk path bytes => load_of_read make⟩
  · rw [decides.exists_ok_iff]
    exact and_iff_right writable
  · intro unsound
    obtain ⟨fault, refused⟩ := (decides.total writable).resolve_left unsound
    obtain ⟨told, rfl⟩ := readable.plan_of_refusal refused
    exact ⟨told, refused, decides.of_refused writable _ refused⟩

/-- Settings of a step whose command is blank, and a timeout that is no duration. -/
private def wordless : Value :=
  .map [(.text "steps", .map [(.text "deploy-rewards", .map [(.text "command", .text " ")])]),
    (.text "timeout", .int (-1))]

private theorem lists_wordless :
    Lists wordless
      [(.text "steps", .map [(.text "deploy-rewards", .map [(.text "command", .text " ")])]),
        (.text "timeout", .int (-1))]
      [(.text "deploy-rewards", .map [(.text "command", .text " ")])] :=
  ⟨laysOut_iff.mpr rfl, laysOut_iff.mpr rfl⟩

private theorem written_wordless : written wordless = [] := by decide +kernel

private theorem isReadable_wordless : IsReadable wordless where
  splits lists among laid held worded := by
    obtain ⟨rfl, rfl⟩ := lists_wordless.alone lists
    cases List.mem_singleton.mp among
    cases (laysOut_iff.mp laid).symm.trans rfl
    cases held.symm.trans rfl
    cases worded
    exact ⟨[], rfl⟩
  inRange laid whole := by
    cases laysOut_unique lists_wordless.whole laid
    cases whole
    decide +kernel
  writable mem := by
    rw [written_wordless] at mem
    cases mem

/-- A step without words is told, though the timeout is no duration either. -/
theorem accepts_exactly_sound_wordless :
    IsReadable wordless ∧
      ofPayload "make" wordless = .error (.plan (.commandEmpty "deploy-rewards")) := by
  refine ⟨isReadable_wordless, ?_⟩
  obtain ⟨-, -, told, -⟩ := accepts_exactly_sound "make" isReadable_wordless
  have known : AllKnown [(.text "deploy-rewards", .map [(.text "command", .text " ")])] :=
    fun entry among => ⟨.rewards, congrArg Prod.fst (List.mem_singleton.mp among)⟩
  have refused : StepRefusal "deploy-rewards" (.map [(.text "command", .text " ")])
      (.plan (.commandEmpty "deploy-rewards")) :=
    .command (laysOut_iff.mpr rfl) rfl (.inr ⟨rfl, rfl⟩)
  have reached : Reaches [(.text "deploy-rewards", .map [(.text "command", .text " ")])]
      (.text Step.rewards.name, .map [(.text "command", .text " ")]) := ⟨[], [], rfl, nofun⟩
  exact told _ (.step lists_wordless known reached refused)

/-- So many lists in each other, around an empty one. -/
def nestedLists : Nat → Value
  | 0 => .list []
  | depth + 1 => .list [nestedLists depth]

theorem faultIn_nestedLists (around : List Nat) (room depth : Nat) :
    Value.faultIn around room (nestedLists depth) =
      if depth < room then none else some .tooDeepToShow := by
  induction depth generalizing room with
  | zero => cases room <;> rfl
  | succ depth ih =>
    cases room with
    | zero => rfl
    | succ room => simp [nestedLists, Value.faultIn, Value.faultAmong, ih]

/-- A value that is sound makes neither a plan nor a plan fault, if the parameter in it lies too deep. -/
theorem nested_parameter_escapes :
    let payload : Value := .map [(.text "parameter", nestedLists 1200)]
    IsSound payload ∧ ofPayload "make" payload = .error (.value .tooDeepToShow) := by
  intro payload
  have lists : Lists payload [(.text "parameter", nestedLists 1200)] [] :=
    ⟨laysOut_iff.mpr rfl, laysOut_iff.mpr rfl⟩
  refine ⟨⟨_, _, lists, nofun, nofun, .inl rfl⟩, ?_⟩
  have deep : (nestedLists 1200).writingFault? = some .tooDeepToShow :=
    (faultIn_nestedLists [] Value.depthLimit 1200).trans (if_neg (by decide))
  have only : written payload = [nestedLists 1200] := by
    rw [written_of_lists lists]
    rfl
  refine (decides_ofPayload "make" payload).of_unwritten ?_
  rw [only, unwritten?_singleton, deep]
  rfl

end Rollout.Plan
