import Rollout.Proofs.Plan.Fields
import Rollout.Proofs.Text.Words

/-!
Commands as lines and as rows.

A command is given as a line of text, which is split into words, or as a row of texts. A line that
spells out the texts of a row says the same as the row, wherever it stands in a plan file.
-/

set_option autoImplicit false
set_option relaxedAutoImplicit false

namespace Rollout

def Value.IsText : Value → Prop
  | .text _ | .codes _ => True
  | _ => False

theorem Value.IsText.writingFault?_eq_none {v : Value} (text : v.IsText) :
    v.writingFault? = none := by
  cases v with
  | text | codes => rfl
  | _ => exact text.elim

namespace Plan

theorem wording_of_isText {line : Value} (text : line.IsText) : wording line = .line line.shown := by
  cases line with
  | text | codes => rfl
  | _ => exact text.elim

theorem argv?_of_row {items : List Value} (texts : ∀ item ∈ items, item.IsText) (step : String) :
    argv? step (.list items) = refuseEmpty step (items.map Value.shown) := by
  have writable : unwritten? items = none :=
    unwritten?_eq_none_iff.mpr fun item mem => (texts item mem).writingFault?_eq_none
  have worded : wording (.list items) = .row items := rfl
  rw [argv?_eq, worded]
  dsimp only
  rw [mapM_show_eq (fun v => v), List.map_id', writable]
  rfl

theorem argv?_of_line {line : Value} {words : List String} (text : line.IsText)
    (spelled : Text.Words.Spells line.shown words) (step : String) :
    argv? step line = refuseEmpty step words := by
  rw [argv?_eq, wording_of_isText text]
  dsimp only
  rw [Text.Words.split_of_spells spelled]
  rfl

/-! ### Places in plan files -/

/-- The entries of a mapping around one of them. -/
structure Around where
  front : List (Value × Value)
  back : List (Value × Value)

namespace Around

variable (around : Around) (name : String) (v w : Value)

def entries : List (Value × Value) := around.front ++ (.text name, v) :: around.back

def holding : Value := .map (around.entries name v)

theorem entries?_holding : entries? (orEmpty (around.holding name v)) =
    some (around.entries name v) := by
  simp [holding, entries, orEmpty, Value.isGiven, entries?, Value.opened]

theorem get?_entries : Value.get? (around.entries name v) name =
    (Value.get? around.front name).or (some v) := by
  rw [entries, Value.get?_append, Value.get?_cons_self]

theorem get?_entries_of_distinct (distinct : Value.Distinct (around.entries name v)) :
    Value.get? (around.entries name v) name = some v :=
  distinct.get?_eq_some_iff.mpr (List.mem_append_right _ List.mem_cons_self)

theorem get?_entries_of_ne {other : String} (ne : other ≠ name) :
    Value.get? (around.entries name v) other = Value.get? (around.entries name w) other := by
  have key : Value.text name ≠ .text other := fun same => ne (Value.text.inj same).symm
  simp only [entries, Value.get?_append, Value.get?_cons_of_ne key]

theorem given?_entries_of_ne {other : String} (ne : other ≠ name) :
    given? (around.entries name v) other = given? (around.entries name w) other := by
  rw [given?, given?, around.get?_entries_of_ne name v w ne]

theorem keys_entries : (around.entries name v).map (·.1) = (around.entries name w).map (·.1) := by
  simp [entries]

end Around

/-- The value of a plan file in which a command stands in the settings of a step. -/
def payloadAround (file steps settings : Around) (step : Step) (command : Value) : Value :=
  file.holding "steps" (steps.holding step.name (settings.holding "command" command))

section Given

variable {file steps settings : Around} {step : Step} {command : Value}
  (keyed : IsKeyed (payloadAround file steps settings step command))
include keyed

theorem lists_payloadAround : Lists (payloadAround file steps settings step command)
    (file.entries "steps" (steps.holding step.name (settings.holding "command" command)))
    (steps.entries step.name (settings.holding "command" command)) := by
  have whole : (payloadAround file steps settings step command).LaysOut
      (file.entries "steps" (steps.holding step.name (settings.holding "command" command))) :=
    laysOut_iff.mpr (file.entries?_holding _ _)
  have distinct := keyed.entries
  rw [fieldsOf_eq whole] at distinct
  refine ⟨whole, laysOut_iff.mpr ?_⟩
  rw [file.get?_entries_of_distinct _ _ distinct]
  exact steps.entries?_holding _ _

theorem get?_settings_payloadAround : (settings.holding "command" command).LaysOut
      (settings.entries "command" command) ∧
    settingsOf (payloadAround file steps settings step command) step =
      settings.entries "command" command ∧
    Value.get? (settings.entries "command" command) "command" = some command := by
  have listed := stepsOf_eq (lists_payloadAround keyed)
  have laid := laysOut_iff.mpr (settings.entries?_holding "command" command)
  have distinct := keyed.steps
  rw [listed] at distinct
  have among : (.text step.name, settings.holding "command" command) ∈
      stepsOf (payloadAround file steps settings step command) := by
    rw [listed]
    exact List.mem_append_right _ List.mem_cons_self
  have distinctFields := keyed.settings among
  rw [fieldsOf_eq laid] at distinctFields
  refine ⟨laid, ?_, settings.get?_entries_of_distinct _ _ distinctFields⟩
  rw [settingsOf, listed, steps.get?_entries_of_distinct _ _ distinct]
  exact fieldsOf_eq laid

end Given

section Congruence

variable {around : Around} {name : String} {v w : Value}

theorem override_holding_congr (same : ∀ step, argv? step w = argv? step v) (command : StepCommand) :
    override command (orEmpty (around.holding "command" w)) =
      override command (orEmpty (around.holding "command" v)) := by
  have words : argvIn command (around.entries "command" w) =
      argvIn command (around.entries "command" v) := by
    unfold argvIn
    rw [around.get?_entries, around.get?_entries]
    cases Value.get? around.front "command" with
    | some raw => rfl
    | none => exact same command.name
  have directory : cwdIn command (around.entries "command" w) =
      cwdIn command (around.entries "command" v) := by
    unfold cwdIn
    rw [around.given?_entries_of_ne "command" w v (by decide)]
  have text : descriptionIn command (around.entries "command" w) =
      descriptionIn command (around.entries "command" v) := by
    unfold descriptionIn
    rw [around.given?_entries_of_ne "command" w v (by decide)]
  simp only [override_eq, Around.entries?_holding, words, directory, text]

theorem overrideAll_append (plan : Plan) (front back : List (Value × Value)) :
    overrideAll plan (front ++ back) =
      overrideAll plan front >>= fun after => overrideAll after back := by
  induction front generalizing plan with
  | nil => rfl
  | cons entry rest ih =>
    obtain ⟨key, settings⟩ := entry
    rw [List.cons_append, overrideAll, overrideAll]
    cases stepOf? key with
    | none => exact ih plan
    | some step =>
      dsimp only
      cases override (plan.command step) (orEmpty settings) with
      | error fault => rfl
      | ok command => exact ih (plan.withCommand step command)

theorem overrideAll_entries_congr
    (same : ∀ command, override command (orEmpty w) = override command (orEmpty v)) (plan : Plan) :
    overrideAll plan (around.entries name w) = overrideAll plan (around.entries name v) := by
  have later (after : Plan) : overrideAll after ((.text name, w) :: around.back) =
      overrideAll after ((.text name, v) :: around.back) := by
    rw [overrideAll, overrideAll]
    cases stepOf? (.text name) with
    | none => rfl
    | some step => simp only [same]
  simp only [Around.entries, overrideAll_append, later]

theorem ofPayload_holding_congr {steps others : List (Value × Value)}
    (listed : entries? (orEmpty v) = some steps) (listedToo : entries? (orEmpty w) = some others)
    (keys : steps.map (·.1) = others.map (·.1))
    (same : ∀ plan, overrideAll plan others = overrideAll plan steps) (make : String) :
    ofPayload make (around.holding "steps" w) = ofPayload make (around.holding "steps" v) := by
  have parameter (plan : Plan) : parameterIn plan (around.entries "steps" w) =
      parameterIn plan (around.entries "steps" v) := by
    unfold parameterIn
    rw [around.given?_entries_of_ne "steps" w v (by decide)]
  have timeout (plan : Plan) : timeoutIn plan (around.entries "steps" w) =
      timeoutIn plan (around.entries "steps" v) := by
    unfold timeoutIn
    rw [around.get?_entries_of_ne "steps" w v (by decide)]
  have unknown : unknownKeys others = unknownKeys steps := by
    rw [unknownKeys_eq, unknownKeys_eq, keys]
  have refused : refuseUnknown others = refuseUnknown steps :=
    refuseUnknown_of_perm (.of_eq unknown.symm) (congrArg unwritten? unknown)
  rw [ofPayload_eq, ofPayload_eq, around.entries?_holding, around.entries?_holding]
  dsimp only
  rw [around.get?_entries, around.get?_entries]
  cases Value.get? around.front "steps" with
  | some given => simp only [Option.some_or, Option.getD_some, parameter, timeout]
  | none =>
    simp only [Option.none_or, Option.getD_some, listed, listedToo, refused, same, parameter, timeout]

end Congruence

/-- A line that spells out the texts of a row has the words of the row, and it has none, and is
refused, where the row is empty. A plan file in which the line is the command of a step is read like
the same file with the row, and the command gets these words. -/
theorem line_says_row {line : Value} {items : List Value} (text : line.IsText)
    (texts : ∀ item ∈ items, item.IsText)
    (spelled : Text.Words.Spells line.shown (items.map Value.shown)) (make : String) (step : Step)
    (file steps settings : Around) :
    let payload := payloadAround file steps settings step
    (∀ name, argv? name line = argv? name (.list items) ∧
      argv? name (.list items) =
        if items = [] then .error (.plan (.commandEmpty name)) else .ok (items.map Value.shown)) ∧
    ofPayload make (payload line) = ofPayload make (payload (.list items)) ∧
    (IsKeyed (payload line) →
      (∀ plan, ofPayload make (payload line) = .ok plan →
        (plan.command step).argv = items.map Value.shown) ∧
      (items = [] → unwritten? (written (payload line)) = none → AllKnown (stepsOf (payload line)) →
        (∀ entry ∈ steps.front, IsSoundStep entry.2) →
        ofPayload make (payload line) = .error (.plan (.commandEmpty step.name)))) ∧
    ∀ (disk : Disk) (path other : Path), Holds disk path (payload line) →
      Holds disk other (payload (.list items)) →
      load disk make (some path) = load disk make (some other) := by
  intro payload
  have same : ∀ name, argv? name line = argv? name (.list items) := fun name =>
    (argv?_of_line text spelled name).trans (argv?_of_row texts name).symm
  have read : ofPayload make (payload line) = ofPayload make (payload (.list items)) :=
    ofPayload_holding_congr (steps.entries?_holding _ _) (steps.entries?_holding _ _)
      (steps.keys_entries _ _ _)
      (overrideAll_entries_congr (override_holding_congr same)) make
  refine ⟨fun name => ⟨same name, ?_⟩, read, fun keyed => ?_, fun disk path other holds holdsToo => ?_⟩
  · rw [argv?_of_row texts]
    cases items <;> rfl
  · have words := Text.Words.split_of_spells spelled
    obtain ⟨laid, settled, given⟩ := get?_settings_payloadAround keyed
    refine ⟨fun plan accepted => ?_, fun empty writable known sound => ?_⟩
    · have made := isMade_of_payload keyed.steps accepted
      obtain ⟨argv, -⟩ := (made.command step).argv (settled ▸ given)
      simp only [AreWords, wording_of_isText text, words] at argv
      exact (Except.ok.inj argv).symm
    · have refused : CommandRefusal step.name line (.plan (.commandEmpty step.name)) := by
        unfold CommandRefusal
        rw [wording_of_isText text]
        exact .inr ⟨words.trans (by rw [empty]; rfl), rfl⟩
      have known : AllKnown (steps.entries step.name (settings.holding "command" line)) :=
        stepsOf_eq (lists_payloadAround keyed) ▸ known
      exact (decides_ofPayload make _).of_refused writable _
        (.step (lists_payloadAround keyed) known ⟨steps.front, steps.back, rfl, sound⟩
          (.command laid given refused))
  · rw [holds.load_eq make, holdsToo.load_eq make, read]

/-- An apostrophe, an empty word and a number sign come through a line. -/
theorem line_says_row_quoted :
    let items : List Value := [.text "it's", .text "", .text "#x"]
    let line := "'it'\"'\"'s' ''\t#x\n"
    let payload := payloadAround ⟨[(.text "parameter", .text "ID")], []⟩
      ⟨[], [(.text "deploy-super", .null)]⟩ ⟨[(.text "cwd", .text "..")], []⟩ .rewards
    Text.Words.Spells line (items.map Value.shown) ∧ IsKeyed (payload (.text line)) ∧
      ∃ plan, ofPayload "make" (payload (.text line)) = .ok plan ∧
        plan.rewards.argv = ["it's", "", "#x"] := by
  intro items line payload
  have spelled : Text.Words.Spells line (items.map Value.shown) := by
    have plain : ∀ c ∈ "#x".toList, Text.Words.IsPlain c := by
      intro c mem
      rcases List.mem_cons.mp mem with rfl | mem
      · decide
      · cases List.mem_singleton.mp mem
        decide
    have last : Text.Words.Joins ["#x".toList] "#x".toList := .one (.bare (by decide) plain)
    have later : Text.Words.Joins ["".toList, "#x".toList] "''\t#x".toList :=
      @Text.Words.Joins.more [] _ ['\t'] _ _ _ .quoted (by decide) (by decide) last
    have all : Text.Words.Joins (items.map fun item => item.shown.toList)
        "'it'\"'\"'s' ''\t#x".toList :=
      @Text.Words.Joins.more "it's".toList _ [' '] _ _ _ .quoted (by decide) (by decide) later
    exact ⟨[], _, ['\n'], by decide, by decide, by decide, all⟩
  have texts : ∀ item ∈ items, item.IsText := by simp [items, Value.IsText]
  have keyed : IsKeyed (payload (.text line)) := by
    refine ⟨?_, ?_, fun mem => ?_⟩
    · show List.Pairwise _ [_, _]
      decide
    · show List.Pairwise _ [_, _]
      decide
    · rcases List.mem_cons.mp mem with rfl | mem
      · show List.Pairwise _ [_, _]
        decide
      · cases List.mem_singleton.mp mem
        exact List.Pairwise.nil
  have text : (Value.text line).IsText := trivial
  obtain ⟨-, read, given, -⟩ := line_says_row text texts spelled "make" .rewards
    ⟨[(.text "parameter", .text "ID")], []⟩ ⟨[], [(.text "deploy-super", .null)]⟩
    ⟨[(.text "cwd", .text "..")], []⟩
  have accepted : ∃ plan, ofPayload "make" (payload (.list items)) = .ok plan := ⟨_, rfl⟩
  obtain ⟨plan, accepted⟩ := accepted
  exact ⟨spelled, keyed, plan, read.trans accepted, (given keyed).1 plan (read.trans accepted)⟩

end Plan

end Rollout
