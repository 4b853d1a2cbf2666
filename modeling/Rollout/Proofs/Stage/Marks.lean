import Rollout.Machine.Launch
import Rollout.Proofs.Catalogue.Registration
import Rollout.Proofs.Stage.Running

/-!
The marks that the running of a stage leaves in the log.

A stage that is executed is marked twice: when it starts, and when it has returned or failed. One that
is interrupted is marked when it starts only. What it did itself stands behind the first mark, and a
stage that runs no others leaves no marks there.
-/

set_option autoImplicit false
set_option relaxedAutoImplicit false

namespace Rollout

/-- What a message tells of the running of a stage. -/
inductive Mark
  | started (name : String)
  | completed (name : String)
  | failed (name : String)
  deriving DecidableEq, Repr

/-- The mark that a message sets, if it is one about the running of a stage. -/
def Message.mark? : Message → Option Mark
  | .stageStarted name _ _ => some (.started name)
  | .stageCompleted name _ => some (.completed name)
  | .stageFailed name _ | .stageBroke name _ => some (.failed name)
  | _ => none

namespace Mark

def started? : Mark → Option String
  | .started name => some name
  | _ => none

def opening : Mark → String
  | .started name => "Starting stage '" ++ name ++ "' "
  | .completed name => "Completed stage '" ++ name ++ "' in "
  | .failed name => "Stage '" ++ name ++ "' failed"

end Mark

namespace Message

private theorem fill_append {front : List Char} (plain : front.all (· != '%') = true)
    (rest : List Char) (data : List Datum) :
    fill (front ++ rest) data = front ++ fill rest data := by
  induction front with
  | nil => rfl
  | cons c front ih =>
    simp only [List.all_cons, Bool.and_eq_true, bne_iff_ne] at plain
    obtain ⟨here, later⟩ := plain
    rw [List.cons_append, fill, ih later, List.cons_append]
    all_goals
      intros
      contradiction

private theorem prefix_text {message : Message} (front back rest : String) {name : String}
    {data : List Datum}
    (shape : String.ofList (front.toList ++ '%' :: 's' :: (back.toList ++ rest.toList)) =
      message.template)
    (given : message.arguments = .text name :: data)
    (plain : (front ++ back).toList.all (· != '%') = true) :
    (front ++ name ++ back).toList <+: message.text.toList := by
  have shown : (Datum.text name).shown Fault.message = name := by
    simp only [Datum.text, Datum.shown, Value.shown]
  rw [String.toList_append, List.all_append, Bool.and_eq_true] at plain
  obtain ⟨before, after⟩ := plain
  refine ⟨fill rest.toList data, ?_⟩
  rw [text, String.toList_ofList, ← shape, given, String.toList_ofList, fill_append before, fill,
    shown, fill_append after]
  simp only [String.toList_append, List.append_assoc]

theorem opening_prefix_text {message : Message} {mark : Mark} (sets : message.mark? = some mark) :
    mark.opening.toList <+: message.text.toList := by
  cases message <;> cases sets
  case stageStarted =>
    exact prefix_text _ _ "(run_id=%s, timestamp=%s)" (by rw [template]; decide +kernel) rfl
      (by decide +kernel)
  case stageCompleted =>
    exact prefix_text _ _ "%.2fs" (by rw [template]; decide +kernel) rfl (by decide +kernel)
  case stageFailed =>
    exact prefix_text _ _ ": %s" (by rw [template]; decide +kernel) rfl (by decide +kernel)
  case stageBroke =>
    exact prefix_text _ _ "" (by rw [template]; decide +kernel) rfl (by decide +kernel)

end Message

namespace Event

/-- The marks among events, in their order. -/
def marks (events : List Event) : List Mark :=
  events.filterMap fun
    | .log record => record.message.mark?
    | _ => none

theorem marks_append (front back : List Event) : marks (front ++ back) = marks front ++ marks back :=
  List.filterMap_append

theorem marks_map_log {records : List Record}
    (mute : ∀ record ∈ records, record.message.mark? = none) :
    marks (records.map .log) = [] := by
  rw [marks, List.filterMap_map]
  exact List.filterMap_eq_nil_iff.mpr mute

end Event

namespace Act

variable {σ α β : Type}

/-- An act leaves no marks, whether it answers or fails. -/
def Unmarked (act : Act σ α) : Prop := ∀ s, Event.marks (act s).events = []

theorem unmarked_pure (a : α) : Unmarked (pure a : Act σ α) := fun _ => rfl

theorem unmarked_fail (fault : Fault) : Unmarked (Act.fail fault : Act σ α) := fun _ => rfl

theorem unmarked_log (logger : String) {message : Message} (mute : message.mark? = none) :
    Unmarked (Act.log logger message : Act σ Unit) := by
  intro s
  rw [log_apply]
  exact List.filterMap_cons_none mute

theorem Unmarked.bind {act : Act σ α} {next : α → Act σ β} (first : Unmarked act)
    (rest : ∀ a, Unmarked (next a)) : Unmarked (act >>= next) := by
  intro s
  cases answer : (act s).answer with
  | ok a => rw [bind_of_ok answer, Event.marks_append, first, rest a, List.append_nil]
  | error fault =>
    rw [bind_of_error answer]
    exact first s

end Act

/-- The commands of a host tell nothing of the running of stages. -/
def Host.IsMute {σ : Type} (host : Host σ) : Prop :=
  ∀ call world, ∀ record ∈ (host.launch call world).records, record.message.mark? = none

theorem Machine.host_isMute : Machine.host.IsMute := by
  intro call world record mem
  simp only [host, launch] at mem
  repeat' split at mem
  all_goals
    simp only [List.mem_cons, List.not_mem_nil, or_false] at mem
    rcases mem with rfl | rfl <;> rfl

/-- A stage that runs no other stages: its action leaves no marks. -/
def Stage.IsLeaf {σ : Type} (stage : Stage σ) : Prop :=
  ∀ context, (stage.action context).Unmarked

namespace Stage

variable {σ : Type} {host : Host σ}

private theorem unmarked_perform (mute : host.IsMute) (call : Call) : (host.perform call).Unmarked :=
  fun world => Event.marks_map_log (mute call world)

private theorem unmarked_showOutput (step : String) (output : Option String) :
    (showOutput step output : Act σ Unit).Unmarked := by
  unfold showOutput
  split
  · split
    · exact Act.unmarked_pure ()
    · exact Act.unmarked_log _ rfl
  · exact Act.unmarked_pure ()

private theorem isLeaf_rewards (mute : host.IsMute) (context : Context) :
    (deployRewards host context).Unmarked := by
  refine (unmarked_perform mute _).bind fun result => ?_
  cases result.ok with
  | false => exact (unmarked_showOutput _ _).bind fun _ => Act.unmarked_fail _
  | true =>
    refine (Act.unmarked_log _ rfl).bind fun _ => ?_
    cases programIdIn context.plan.rewards.name result.output with
    | error fault => exact Act.unmarked_fail _
    | ok programId => exact (Act.unmarked_log _ rfl).bind fun _ => Act.unmarked_pure _

private theorem isLeaf_registry (mute : host.IsMute) (context : Context) :
    (deployRegistry host context).Unmarked := by
  refine (unmarked_perform mute _).bind fun result => ?_
  cases result.ok with
  | false => exact Act.unmarked_fail _
  | true => exact Act.unmarked_pure _

private theorem isLeaf_tests (mute : host.IsMute) (context : Context) :
    (runTests host context).Unmarked := by
  have guard : (Act.ofExcept (readyProgramId context) : Act σ String).Unmarked := fun _ => rfl
  refine guard.bind fun programId => (Act.unmarked_log _ rfl).bind fun _ =>
    (unmarked_perform mute _).bind fun result => ?_
  cases result.ok with
  | false => exact Act.unmarked_fail _
  | true => exact Act.unmarked_pure _

theorem isLeaf_ofStep (mute : host.IsMute) (step : Step) : (ofStep host step).IsLeaf := by
  intro context
  cases step with
  | rewards => exact isLeaf_rewards mute context
  | registry => exact isLeaf_registry mute context
  | tests => exact isLeaf_tests mute context

end Stage

/-- An execution of a stage: the name under which it was run, and the desk from which it started. -/
structure Execution (σ : Type) where
  name : String
  stage : Stage σ
  desk : Desk σ

namespace Execution

variable {σ : Type} (host : Host σ) (execution : Execution σ)

/-- What the action of the stage did; the clock was read before it. -/
def did : Ran σ (Option Outcome) :=
  execution.stage.action execution.desk.context (host.tick execution.desk.world).2

def start : Record :=
  .of execution.stage.logger (Desk.started execution.desk.context execution.name)

/-- What is logged at the end: that the stage is completed if its action returned, and that it failed
if a failure came up. An interruption leaves nothing. -/
def ending : List Event :=
  match (execution.did host).answer with
  | .ok _ => [.log <| .of execution.stage.logger <| .stageCompleted execution.name
      ((host.tick (execution.did host).state).1.sub (host.tick execution.desk.world).1)]
  | .error fault => Desk.failures execution.stage.logger execution.name fault

/-- The events of the execution: what the action did, between the records of start and end. -/
def events : List Event :=
  .log execution.start :: ((execution.did host).events ++ execution.ending host)

theorem calls_events :
    Event.calls (execution.events host) = Event.calls (execution.did host).events := by
  have mute (record : Record) : Event.calls [.log record] = [] := rfl
  have ends : Event.calls (execution.ending host) = [] := by
    unfold ending
    cases (execution.did host).answer with
    | ok outcome => rfl
    | error fault => cases fault <;> rfl
  rw [events, ← List.singleton_append, Event.calls_append, Event.calls_append, mute, ends,
    List.nil_append, List.append_nil]

/-- The marks that the execution is to have: it started, and then it is completed if its action
returned, and failed if a failure came up. -/
def marks : List Mark :=
  .started execution.name ::
    match (execution.did host).answer with
    | .ok _ => [.completed execution.name]
    | .error fault => if fault.isFailure then [.failed execution.name] else []

theorem marks_events {execution : Execution σ} (leaf : execution.stage.IsLeaf) :
    Event.marks (execution.events host) = execution.marks host := by
  have inner : Event.marks (execution.did host).events = [] := leaf _ _
  have begins : Event.marks [.log execution.start] = [.started execution.name] := rfl
  rw [events, ← List.singleton_append, Event.marks_append, Event.marks_append, inner, begins]
  unfold ending marks
  cases (execution.did host).answer with
  | ok outcome => rfl
  | error fault => cases fault <;> rfl

theorem marks_flatMap_events {executed : List (Execution σ)}
    (leaves : ∀ execution ∈ executed, execution.stage.IsLeaf) :
    Event.marks (executed.flatMap (·.events host)) = executed.flatMap (·.marks host) := by
  induction executed with
  | nil => rfl
  | cons execution rest ih =>
    obtain ⟨first, others⟩ := List.forall_mem_cons.mp leaves
    rw [List.flatMap_cons, Event.marks_append, marks_events host first, ih others, List.flatMap_cons]

theorem started_marks (executed : List (Execution σ)) :
    (executed.flatMap (·.marks host)).filterMap Mark.started? = executed.map (·.name) := by
  induction executed with
  | nil => rfl
  | cons execution rest ih =>
    have only : (execution.marks host).filterMap Mark.started? = [execution.name] := by
      unfold marks
      cases (execution.did host).answer with
      | ok outcome => rfl
      | error fault => cases fault <;> rfl
    rw [List.flatMap_cons, List.filterMap_append, only, ih, List.singleton_append, List.map_cons]

theorem marks_cases (execution : Execution σ) :
    (∃ outcome, (execution.did host).answer = .ok outcome) ∧
        execution.marks host = [.started execution.name, .completed execution.name] ∨
      (∃ fault, (execution.did host).answer = .error fault ∧ fault.isFailure = true) ∧
        execution.marks host = [.started execution.name, .failed execution.name] ∨
      (∃ interruption, (execution.did host).answer = .error (.interrupted interruption)) ∧
        execution.marks host = [.started execution.name] := by
  unfold marks
  cases (execution.did host).answer with
  | ok outcome => exact .inl ⟨⟨outcome, rfl⟩, rfl⟩
  | error fault =>
    cases fault with
    | interrupted interruption => exact .inr (.inr ⟨⟨interruption, rfl⟩, rfl⟩)
    | _ => exact .inr (.inl ⟨⟨_, rfl, rfl⟩, rfl⟩)

end Execution

namespace Desk

variable {σ : Type} (host : Host σ)

/-- The execution of the stage of a name from a desk, if there is such a stage. -/
def execution? (catalogue : Catalogue σ) (name : String) (desk : Desk σ) : Option (Execution σ) :=
  (catalogue.get? name).map fun stage => ⟨name, stage, desk⟩

theorem events_runStage (catalogue : Catalogue σ) (name : String) (desk : Desk σ) :
    (runStage host catalogue name desk).events =
      (execution? catalogue name desk).toList.flatMap (·.events host) := by
  cases found : catalogue.get? name with
  | none =>
    have missing : catalogue.find name = .error (.stageMissing name) := by
      rw [Catalogue.find, found]
    rw [runStage_of_missing host missing, execution?, found]
    rfl
  | some stage =>
    have known : catalogue.find name = .ok stage := by rw [Catalogue.find, found]
    rw [execution?, found]
    cases answer : (stage.action desk.context (host.tick desk.world).2).answer with
    | ok outcome =>
      rw [runStage_of_ok host known desk answer]
      simp [Execution.events, Execution.ending, Execution.did, Execution.start, answer]
    | error fault =>
      rw [runStage_of_error host known desk answer]
      simp [Execution.events, Execution.ending, Execution.did, Execution.start, answer]

end Desk

end Rollout
