import Rollout.Proofs.Plan.Decision

/-!
What a plan file must be, part by part.

A command must have words, the settings of a step must be a mapping whose command has them, the keys
of the steps must be their names, and a timeout must be a duration. For each part it is said when it
is sound, what is refused of it, and which of its values are written.
-/

set_option autoImplicit false
set_option relaxedAutoImplicit false

namespace Rollout

theorem Step.name_injective : Function.Injective Step.name := by
  intro step other same
  cases step <;> cases other <;> first | rfl | exact absurd same (by decide)

namespace Plan

variable {α : Type}

/-! ### Commands -/

/-- How a command is given: as a line of text, as a row of values, or as neither. -/
inductive Wording
  | line (s : String)
  | row (items : List Value)
  | neither

def wording (raw : Value) : Wording :=
  match raw.opened with
  | .text s => .line s
  | .codes ns => .line ns.text
  | .list items => .row items
  | .pair first second => .row [first, second]
  | _ => .neither

/-- A command has words: it is a line that splits into some, or a row that is not empty. -/
def HasWords (raw : Value) : Prop :=
  match wording raw with
  | .line s => ∃ words, Text.Words.split s = .ok words ∧ words ≠ []
  | .row items => items ≠ []
  | .neither => False

def Wording.hasWords : Wording → Bool
  | .line s => (Text.Words.split s).toOption.any (!·.isEmpty)
  | .row items => !items.isEmpty
  | .neither => false

theorem hasWords_wording_iff {raw : Value} : (wording raw).hasWords = true ↔ HasWords raw := by
  unfold HasWords
  cases wording raw with
  | line s =>
    simp only [Wording.hasWords]
    cases Text.Words.split s with
    | error fault => simp [Except.toOption]
    | ok words => cases words <;> simp [Except.toOption]
  | row items => cases items <;> simp [Wording.hasWords]
  | neither => simp [Wording.hasWords]

instance (raw : Value) : Decidable (HasWords raw) := decidable_of_iff _ hasWords_wording_iff

def CommandRefusal (step : String) (raw : Value) (fault : Rollout.Fault) : Prop :=
  match wording raw with
  | .line s =>
    (∃ unsplit, Text.Words.split s = .error unsplit ∧ fault = .words unsplit) ∨
      Text.Words.split s = .ok [] ∧ fault = .plan (.commandEmpty step)
  | .row items => items = [] ∧ fault = .plan (.commandEmpty step)
  | .neither => fault = .plan (.commandShape step)

def wordValues (raw : Value) : List Value :=
  match wording raw with
  | .row items => items
  | _ => []

/-- Refuse a command without words. -/
def refuseEmpty (step : String) (words : List String) : Except Rollout.Fault (List String) :=
  if words.isEmpty then .error (.plan (.commandEmpty step)) else .ok words

theorem argv?_eq (step : String) (raw : Value) :
    argv? step raw =
      match wording raw with
      | .line s => (Text.Words.split s).mapError Fault.words >>= refuseEmpty step
      | .row items => (items.mapM fun item => item.show?.mapError Fault.value) >>= refuseEmpty step
      | .neither => .error (.plan (.commandShape step)) := by
  unfold argv? wording
  cases raw.opened <;> rfl

theorem decides_argv (step : String) (raw : Value) :
    Decides (wordValues raw) (HasWords raw) (CommandRefusal step raw) (argv? step raw) := by
  rw [argv?_eq]
  unfold wordValues HasWords CommandRefusal
  cases wording raw with
  | line s =>
    dsimp only
    cases split : Text.Words.split s with
    | error unsplit => exact .of_error rfl (by simp) (.inl ⟨unsplit, rfl, rfl⟩) (by simp)
    | ok words =>
      cases words with
      | nil => exact .of_error rfl (by simp) (.inr ⟨rfl, rfl⟩) (by simp)
      | cons word more => exact .of_ok rfl ⟨word :: more, rfl, by simp⟩ (by simp) _
  | row items =>
    dsimp only
    rw [mapM_show_eq (fun v => v), List.map_id']
    cases unwritten : unwritten? items with
    | some fault => exact .of_unwritable unwritten
    | none =>
      cases items with
      | nil => exact .of_error unwritten (by simp) ⟨rfl, rfl⟩ (by simp)
      | cons item more => exact .of_ok unwritten (by simp) (by simp) _
  | neither => exact .of_error rfl id rfl fun _ => id

/-! ### Steps -/

theorem laysOut_iff {v : Value} {entries : List (Value × Value)} :
    v.LaysOut entries ↔ entries? (orEmpty v) = some entries := by
  unfold Value.LaysOut orEmpty
  cases v.isGiven with
  | false => simp [entries?, Value.opened, eq_comm]
  | true =>
    unfold entries?
    cases opened : v.opened <;> simp [opened]

theorem laysOut_unique {v : Value} {entries others : List (Value × Value)}
    (laid : v.LaysOut entries) (other : v.LaysOut others) : others = entries :=
  Option.some.inj ((laysOut_iff.mp other).symm.trans (laysOut_iff.mp laid))

theorem entries?_ne_none {v : Value} {entries : List (Value × Value)} (laid : v.LaysOut entries) :
    entries? (orEmpty v) ≠ none := by
  rw [laysOut_iff.mp laid]
  nofun

/-- The settings of a step are sound: they are not given, or a mapping whose command, if it has one,
has words. -/
def IsSoundStep (settings : Value) : Prop :=
  ∃ entries, settings.LaysOut entries ∧
    ∀ raw, Value.get? entries "command" = some raw → HasWords raw

/-- What is refused of the settings of a step. -/
inductive StepRefusal (step : String) (settings : Value) : Rollout.Fault → Prop
  | notMapping : (∀ entries, ¬settings.LaysOut entries) →
      StepRefusal step settings (.plan (.stepNotMapping step))
  | command {entries : List (Value × Value)} {raw : Value} {fault : Rollout.Fault} :
      settings.LaysOut entries → Value.get? entries "command" = some raw →
      CommandRefusal step raw fault → StepRefusal step settings fault

/-- The entries of a value; a value that is no mapping has none. -/
def fieldsOf (v : Value) : List (Value × Value) := (entries? (orEmpty v)).getD []

theorem fieldsOf_eq {v : Value} {entries : List (Value × Value)} (laid : v.LaysOut entries) :
    fieldsOf v = entries := by
  rw [fieldsOf, laysOut_iff.mp laid]
  rfl

theorem isSoundStep_iff {settings : Value} {entries : List (Value × Value)}
    (laid : settings.LaysOut entries) :
    IsSoundStep settings ↔ ∀ raw ∈ Value.get? entries "command", HasWords raw := by
  refine ⟨?_, fun words => ⟨entries, laid, words⟩⟩
  rintro ⟨others, other, words⟩
  obtain rfl : others = entries := laysOut_unique laid other
  exact words

instance (settings : Value) : Decidable (IsSoundStep settings) :=
  decidable_of_iff
    ((entries? (orEmpty settings)).any fun entries =>
      decide (∀ raw ∈ Value.get? entries "command", HasWords raw)) <| by
    cases found : entries? (orEmpty settings) with
    | none =>
      refine iff_of_false nofun ?_
      rintro ⟨entries, laid, -⟩
      exact entries?_ne_none laid found
    | some entries => rw [isSoundStep_iff (laysOut_iff.mpr found), Option.any_some, decide_eq_true_iff]

def writtenInCommand (entries : List (Value × Value)) : List Value :=
  ((Value.get? entries "command").map wordValues).getD []

/-- The values in the settings of a step that are written, in their order: those of the words of its
command and, if that is sound, its directory and its description. -/
def writtenInStep (settings : Value) : List Value :=
  let entries := fieldsOf settings
  writtenInCommand entries ++
    if IsSoundStep settings then
      (given? entries "cwd").toList ++ (given? entries "description").toList
    else []

/-- A field that is written from its entry, if that is given, and stays as it is otherwise. -/
def fieldIn (entries : List (Value × Value)) (name : String) (read : String → α) (usual : α) :
    Except Rollout.Fault α :=
  match given? entries name with
  | some raw => (raw.show?.mapError Fault.value).map read
  | none => .ok usual

theorem cwdIn_eq (command : StepCommand) (entries : List (Value × Value)) :
    cwdIn command entries =
      fieldIn entries "cwd" (fun text => some (Path.ofString text)) command.cwd := rfl

theorem descriptionIn_eq (command : StepCommand) (entries : List (Value × Value)) :
    descriptionIn command entries = fieldIn entries "description" id command.description := by
  unfold descriptionIn fieldIn
  cases given? entries "description" with
  | none => rfl
  | some raw => exact (Except.map_id ▸ rfl)

theorem parameterIn_eq (plan : Plan) (entries : List (Value × Value)) :
    parameterIn plan entries = fieldIn entries "parameter" id plan.parameter := by
  unfold parameterIn fieldIn
  cases given? entries "parameter" with
  | none => rfl
  | some raw => exact (Except.map_id ▸ rfl)

theorem decides_field (entries : List (Value × Value)) (name : String) (read : String → α)
    (usual : α) :
    Decides (given? entries name).toList True (fun _ => False) (fieldIn entries name read usual) := by
  unfold fieldIn
  cases given? entries name with
  | none => exact .of_ok rfl trivial (fun _ => id) _
  | some raw =>
    have written := unwritten?_singleton raw
    dsimp only [Option.toList_some]
    cases fault? : raw.writingFault? with
    | some fault =>
      rw [Value.show?_of_unwritable fault?]
      exact .of_unwritable (by rw [written, fault?]; rfl)
    | none =>
      rw [Value.show?_of_writable fault?]
      exact .of_ok (by rw [written, fault?]; rfl) trivial (fun _ => id) _

theorem decides_argvIn (command : StepCommand) (entries : List (Value × Value)) :
    Decides (writtenInCommand entries) (∀ raw ∈ Value.get? entries "command", HasWords raw)
      (fun fault => ∃ raw, Value.get? entries "command" = some raw ∧
        CommandRefusal command.name raw fault)
      (argvIn command entries) := by
  unfold argvIn writtenInCommand
  cases Value.get? entries "command" with
  | none => exact .of_ok rfl (by simp) (by simp) _
  | some raw => exact (decides_argv command.name raw).of_iff rfl (by simp) (by simp)

theorem decides_override (command : StepCommand) (settings : Value) :
    Decides (writtenInStep settings) (IsSoundStep settings) (StepRefusal command.name settings)
      (override command (orEmpty settings)) := by
  rw [override_eq]
  cases found : entries? (orEmpty settings) with
  | none =>
    have unlaid : ∀ entries, ¬settings.LaysOut entries := fun _ laid => entries?_ne_none laid found
    have unsound : ¬IsSoundStep settings := by
      rintro ⟨entries, laid, -⟩
      exact unlaid entries laid
    have none : writtenInStep settings = [] := by
      simp only [writtenInStep, if_neg unsound, fieldsOf, found]
      rfl
    refine .of_error (by rw [none]; rfl) unsound (.notMapping unlaid) ?_
    rintro other (_ | ⟨laid⟩)
    · rfl
    · exact absurd laid (unlaid _)
  | some entries =>
    have laid : settings.LaysOut entries := laysOut_iff.mpr found
    have decides := (decides_argvIn command entries).bind fun argv _ =>
      (decides_field entries "cwd" (fun text => some (Path.ofString text)) command.cwd).bind
        fun cwd _ => (decides_field entries "description" id command.description).map
          fun description => { command with argv := argv, cwd := cwd, description := description }
    simp only [and_true, or_false, and_false, if_true] at decides
    simp only [cwdIn_eq, descriptionIn_eq]
    refine decides.of_iff ?_ (isSoundStep_iff laid) fun fault => ?_
    · simp only [writtenInStep, fieldsOf_eq laid, isSoundStep_iff laid]
    · constructor
      · rintro (unlaid | ⟨other, held, refused⟩)
        · exact absurd laid (unlaid entries)
        · exact ⟨_, laysOut_unique laid other ▸ held, refused⟩
      · rintro ⟨raw, held, refused⟩
        exact .command laid held refused

/-! ### Rows of steps -/

theorem stepOf?_eq_some_iff {key : Value} {step : Step} :
    stepOf? key = some step ↔ key = .text step.name := by
  cases key with
  | text name =>
    simp only [stepOf?, Step.ofName?, Value.text.injEq]
    constructor
    · intro found
      have same := List.find?_some found
      exact (eq_of_beq same).symm
    · rintro rfl
      cases step <;> decide
  | _ => simp [stepOf?]

/-- An entry of a row is reached if the settings before it are sound. -/
def Reaches (steps : List (Value × Value)) (entry : Value × Value) : Prop :=
  ∃ front rest, steps = front ++ entry :: rest ∧ ∀ earlier ∈ front, IsSoundStep earlier.2

theorem not_reaches_nil {entry : Value × Value} : ¬Reaches [] entry := by
  rintro ⟨front, rest, same, -⟩
  cases front <;> cases same

theorem reaches_cons_iff {first entry : Value × Value} {rest : List (Value × Value)} :
    Reaches (first :: rest) entry ↔
      entry = first ∨ IsSoundStep first.2 ∧ Reaches rest entry := by
  constructor
  · rintro ⟨_ | ⟨head, front⟩, back, same, well⟩
    · exact .inl (List.cons.inj same).1.symm
    · obtain ⟨rfl, later⟩ := List.cons.inj same
      exact .inr ⟨well _ List.mem_cons_self, front, back, later, fun earlier mem =>
        well earlier (List.mem_cons_of_mem _ mem)⟩
  · rintro (rfl | ⟨here, front, back, rfl, well⟩)
    · exact ⟨[], rest, rfl, nofun⟩
    · refine ⟨first :: front, back, rfl, fun earlier mem => ?_⟩
      rcases List.mem_cons.mp mem with rfl | mem
      · exact here
      · exact well earlier mem

def AllKnown (steps : List (Value × Value)) : Prop :=
  ∀ entry ∈ steps, ∃ step : Step, entry.1 = .text step.name

/-- The values in the settings of steps that are written, up to the first settings that are not
sound. -/
def writtenInSteps : List (Value × Value) → List Value
  | [] => []
  | entry :: rest =>
    writtenInStep entry.2 ++ if IsSoundStep entry.2 then writtenInSteps rest else []

theorem decides_overrideAll {plan : Plan} (named : plan.IsNamed) {steps : List (Value × Value)}
    (known : AllKnown steps) :
    Decides (writtenInSteps steps) (∀ entry ∈ steps, IsSoundStep entry.2)
      (fun fault => ∃ settings, ∃ step : Step, Reaches steps (.text step.name, settings) ∧
        StepRefusal step.name settings fault)
      (overrideAll plan steps) := by
  induction steps generalizing plan with
  | nil => exact .of_ok rfl (by simp) (by simp [not_reaches_nil]) plan
  | cons entry rest ih =>
    obtain ⟨key, settings⟩ := entry
    obtain ⟨step, rfl⟩ := known _ List.mem_cons_self
    have knownRest : AllKnown rest := fun other mem => known other (List.mem_cons_of_mem _ mem)
    rw [overrideAll, stepOf?_eq_some_iff.mpr rfl]
    dsimp only
    refine ((decides_override (plan.command step) settings).bind fun command overridden =>
      ih (named.withCommand ((name_of_override overridden).trans (named step))) knownRest).of_iff
        rfl (by simp) fun fault => ?_
    simp only [reaches_cons_iff, named step]
    constructor
    · rintro ⟨others, other, same | ⟨well, reached⟩, refused⟩
      · obtain ⟨sameKey, rfl⟩ := Prod.mk.inj same
        obtain rfl := Step.name_injective (Value.text.inj sameKey)
        exact .inl refused
      · exact .inr ⟨well, others, other, reached, refused⟩
    · rintro (refused | ⟨well, others, other, reached, refused⟩)
      · exact ⟨settings, step, .inl rfl, refused⟩
      · exact ⟨others, other, .inr ⟨well, reached⟩, refused⟩

/-- The keys of a row that are no names of steps. -/
def unknownKeys (steps : List (Value × Value)) : List Value :=
  (steps.filter fun entry => (stepOf? entry.1).isNone).map (·.1)

theorem allKnown_iff {steps : List (Value × Value)} : AllKnown steps ↔ unknownKeys steps = [] := by
  simp only [AllKnown, unknownKeys, List.map_eq_nil_iff, List.filter_eq_nil_iff,
    Option.isNone_iff_eq_none, ← stepOf?_eq_some_iff, ← Option.ne_none_iff_exists', ne_eq]

theorem unknownKeys_eq (steps : List (Value × Value)) :
    unknownKeys steps = (steps.map (·.1)).filter fun key => (stepOf? key).isNone := by
  rw [unknownKeys, List.filter_map]
  rfl

instance (steps : List (Value × Value)) : Decidable (AllKnown steps) :=
  decidable_of_iff ((unknownKeys steps).isEmpty = true) (by rw [allKnown_iff, List.isEmpty_iff])

/-- Names are told in the order of texts. -/
structure ToldNames (names : List String) (keys : List Value) : Prop where
  sorted : names.Pairwise (· ≤ ·)
  perm : names.Perm (keys.map Value.shown)

theorem textLe_iff {s t : String} : textLe s t = true ↔ s ≤ t := by
  simp only [textLe, Bool.not_eq_true', decide_eq_false_iff_not]
  exact Iff.rfl

theorem toldNames_iff {names : List String} {keys : List Value} :
    ToldNames names keys ↔ names = (keys.map Value.shown).mergeSort textLe := by
  have sorted : ((keys.map Value.shown).mergeSort textLe).Pairwise (· ≤ ·) := by
    have ordered := @List.pairwise_mergeSort _ textLe
      (fun a b c => by simpa only [textLe_iff] using String.le_trans)
      (fun a b => by simpa only [Bool.or_eq_true, textLe_iff] using String.le_total a b)
      (keys.map Value.shown)
    simpa only [textLe_iff] using ordered
  have perm := List.mergeSort_perm (keys.map Value.shown) textLe
  constructor
  · rintro ⟨ordered, same⟩
    exact List.Perm.eq_of_pairwise (fun _ _ _ _ => String.le_antisymm) ordered sorted
      (same.trans perm.symm)
  · rintro rfl
    exact ⟨sorted, perm⟩

theorem decides_refuseUnknown (steps : List (Value × Value)) :
    Decides (unknownKeys steps) (AllKnown steps)
      (fun fault => unknownKeys steps ≠ [] ∧
        ∃ names, ToldNames names (unknownKeys steps) ∧ fault = .plan (.unknownSteps names))
      (refuseUnknown steps) := by
  rw [allKnown_iff]
  unfold refuseUnknown
  have keys : unknownKeys steps = (steps.filter fun entry => (stepOf? entry.1).isNone).map (·.1) :=
    rfl
  generalize steps.filter (fun entry => (stepOf? entry.1).isNone) = strange at keys ⊢
  rw [keys, mapM_show_eq]
  cases unwritten : unwritten? (strange.map (·.1)) with
  | some fault => exact .of_unwritable unwritten
  | none =>
    cases strange with
    | nil => exact .of_ok rfl rfl (by simp) _
    | cons entry more =>
      have told : ∀ names, ToldNames names ((entry :: more).map (·.1)) ↔
          names = ((entry :: more).map fun item => item.1.shown).mergeSort textLe := fun names => by
        rw [toldNames_iff, List.map_map]
        rfl
      refine .of_error unwritten (by simp) ⟨by simp, _, (told _).mpr rfl, rfl⟩ ?_
      rintro other ⟨-, names, same, rfl⟩
      rw [(told names).mp same]

theorem refuseUnknown_of_perm {steps others : List (Value × Value)}
    (unknown : (unknownKeys steps).Perm (unknownKeys others))
    (same : unwritten? (unknownKeys others) = unwritten? (unknownKeys steps)) :
    refuseUnknown others = refuseUnknown steps := by
  have names : ∀ names, ToldNames names (unknownKeys others) ↔ ToldNames names (unknownKeys steps) :=
    fun names => ⟨fun told => ⟨told.sorted, told.perm.trans (unknown.map _).symm⟩,
      fun told => ⟨told.sorted, told.perm.trans (unknown.map _)⟩⟩
  have none : unknownKeys others = [] ↔ unknownKeys steps = [] :=
    ⟨fun here => (here ▸ unknown).eq_nil, fun here => (here ▸ unknown).symm.eq_nil⟩
  refine (decides_refuseUnknown steps).unique
    ((decides_refuseUnknown others).of_iff rfl ?_ ?_) same
  · simp only [allKnown_iff, none]
  · simp only [none, names, ne_eq, implies_true]

/-! ### Timeouts -/

/-- A value is a duration if it is made a number greater than zero. -/
def IsDuration (raw : Value) : Prop :=
  ∃ seconds, raw.number? = .ok (some seconds) ∧ seconds.isPositive = true

def DurationRefusal (label : String) (raw : Value) (fault : Rollout.Fault) : Prop :=
  match raw.number? with
  | .error unmade => fault = .value unmade
  | .ok none => fault = .plan (.unreadableTimeout label raw.quote)
  | .ok (some seconds) =>
    seconds.isPositive = false ∧ fault = .plan (.timeoutNotPositive label raw.quote)

theorem number?_eq_error_iff {raw : Value} {fault : Value.Fault} :
    raw.number? = .error fault ↔
      ∃ i, raw = .int i ∧ Number.Binary64.ofInt? i = none ∧ fault = .overflow := by
  unfold Value.number?
  -- What number a whole number is made is left open, so that none is computed.
  obtain ⟨made?, same⟩ : ∃ made?, made? = Number.Binary64.ofInt? := ⟨_, rfl⟩
  rw [← same]
  cases raw with
  | int i => cases made : made? i <;> simp [made, eq_comm]
  | _ => simp

theorem timeout?_eq (raw : Value) (label : String) :
    timeout? raw label =
      match raw.number? with
      | .error unmade => .error (.value unmade)
      | .ok none => raw.quote?.mapError Fault.value >>= fun quoted =>
          .error (.plan (.unreadableTimeout label quoted))
      | .ok (some seconds) =>
        if seconds.isPositive = true then .ok seconds
        else raw.quote?.mapError Fault.value >>= fun quoted =>
          .error (.plan (.timeoutNotPositive label quoted)) := by
  unfold timeout?
  rcases raw.number? with unmade | _ | seconds
  · rfl
  · rfl
  · cases seconds.isPositive <;> rfl

/-- The values that are written while a duration is read: the value itself where it is told. -/
def writtenInDuration (raw : Value) : List Value :=
  match raw.number? with
  | .error _ => []
  | .ok none => [raw]
  | .ok (some seconds) => if seconds.isPositive then [] else [raw]

theorem decides_quoted {raw : Value} {tells : String → Plan.Fault} :
    Decides [raw] False (· = .plan (tells raw.quote))
      (raw.quote?.mapError Fault.value >>= fun quoted => .error (.plan (tells quoted)) :
        Except Rollout.Fault α) := by
  have written := unwritten?_singleton raw
  cases fault? : raw.writingFault? with
  | some fault =>
    rw [Value.quote?_of_unwritable fault?]
    exact .of_unwritable (by rw [written, fault?]; rfl)
  | none =>
    rw [Value.quote?_of_writable fault?]
    exact .of_error (by rw [written, fault?]; rfl) id rfl fun _ => id

theorem decides_duration (label : String) (raw : Value) :
    Decides (writtenInDuration raw) (IsDuration raw) (DurationRefusal label raw)
      (timeout? raw label) := by
  rw [timeout?_eq]
  unfold writtenInDuration IsDuration DurationRefusal
  rcases raw.number? with unmade | _ | seconds
  · exact .of_error rfl (by simp) rfl fun _ => id
  · exact decides_quoted.of_iff rfl (by simp) fun _ => .rfl
  · dsimp only
    cases positive : seconds.isPositive with
    | true =>
      rw [if_pos rfl, if_pos rfl]
      exact .of_ok rfl ⟨seconds, rfl, positive⟩ (by simp) _
    | false =>
      rw [if_neg nofun, if_neg nofun]
      exact decides_quoted.of_iff rfl (by simp [positive]) (by simp)

/-- The timeout that a plan file gives; null if it gives none. -/
def timeoutOf (entries : List (Value × Value)) : Value := (Value.get? entries "timeout").getD .null

/-- The values that are written while the timeout of a plan file is read. -/
def writtenInTimeout (entries : List (Value × Value)) : List Value :=
  match timeoutOf entries with
  | .null => []
  | raw => writtenInDuration raw

section Timeout

variable {entries : List (Value × Value)}

theorem timeoutIn_of_null (none : timeoutOf entries = .null) (plan : Plan) :
    timeoutIn plan entries = .ok plan.timeout := by
  unfold timeoutIn
  unfold timeoutOf at none
  rw [none]

theorem timeoutIn_of_given (given : timeoutOf entries ≠ .null) (plan : Plan) :
    timeoutIn plan entries = (timeout? (timeoutOf entries) "timeout").map some := by
  unfold timeoutIn
  split
  · contradiction
  · rfl

theorem writtenInTimeout_of_given (given : timeoutOf entries ≠ .null) :
    writtenInTimeout entries = writtenInDuration (timeoutOf entries) := by
  unfold writtenInTimeout
  split
  · contradiction
  · rfl

theorem decides_timeout (plan : Plan) (entries : List (Value × Value)) :
    Decides (writtenInTimeout entries) (timeoutOf entries = .null ∨ IsDuration (timeoutOf entries))
      (fun fault => timeoutOf entries ≠ .null ∧ DurationRefusal "timeout" (timeoutOf entries) fault)
      (timeoutIn plan entries) := by
  by_cases none : timeoutOf entries = .null
  · rw [timeoutIn_of_null none]
    exact .of_ok (by rw [writtenInTimeout, none]; rfl) (.inl none) (by simp [none]) _
  · have timed : (timeout? (timeoutOf entries) "timeout" >>= fun seconds => .ok (some seconds)) =
        (timeout? (timeoutOf entries) "timeout").map some := by
      cases timeout? (timeoutOf entries) "timeout" <;> rfl
    rw [timeoutIn_of_given none, ← timed]
    refine ((decides_duration "timeout" (timeoutOf entries)).map some).of_iff
      (writtenInTimeout_of_given none) ?_ ?_ <;> simp [none]

end Timeout

end Plan

end Rollout
