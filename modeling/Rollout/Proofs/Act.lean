import Rollout.Act

/-!
The laws of acts: what each of them leaves when it is applied to a state, what it is for an act to
preserve a property of the state, and what a row of events shows besides the log.
-/

set_option autoImplicit false
set_option relaxedAutoImplicit false

namespace Rollout

namespace Act

variable {σ τ α β γ : Type}

theorem get_apply (s : σ) : (Act.get : Act σ σ) s = ⟨.ok s, [], s⟩ := rfl

theorem fail_apply (fault : Fault) (s : σ) :
    (Act.fail fault : Act σ α) s = ⟨.error fault, [], s⟩ := rfl

theorem ofExcept_apply (answer : Except Fault α) (s : σ) :
    Act.ofExcept answer s = ⟨answer, [], s⟩ := rfl

theorem log_apply (logger : String) (message : Message) (s : σ) :
    Act.log logger message s = ⟨.ok (), [.log (.of logger message)], s⟩ := rfl

theorem attempt_apply (act : Act σ α) (s : σ) :
    Act.attempt act s = ⟨.ok (act s).answer, (act s).events, (act s).state⟩ := rfl

theorem focus_apply (view : τ → σ) (set : σ → τ → τ) (act : Act σ α) (t : τ) :
    Act.focus view set act t =
      ⟨(act (view t)).answer, (act (view t)).events, set (act (view t)).state t⟩ := rfl

theorem bind_of_ok {act : Act σ α} {next : α → Act σ β} {s : σ} {a : α}
    (answer : (act s).answer = .ok a) :
    (act >>= next) s =
      ⟨(next a (act s).state).answer, (act s).events ++ (next a (act s).state).events,
        (next a (act s).state).state⟩ := by
  rw [bind_apply]
  generalize act s = ran at answer ⊢
  cases ran
  simp only at answer
  subst answer
  rfl

theorem bind_of_error {act : Act σ α} {next : α → Act σ β} {s : σ} {fault : Fault}
    (answer : (act s).answer = .error fault) :
    (act >>= next) s = ⟨.error fault, (act s).events, (act s).state⟩ := by
  rw [bind_apply]
  generalize act s = ran at answer ⊢
  cases ran
  simp only at answer
  subst answer
  rfl

theorem state_bind_pure (act : Act σ α) (f : α → β) (s : σ) :
    ((act >>= fun a => pure (f a)) s).state = (act s).state := by
  cases answer : (act s).answer with
  | ok a =>
    rw [bind_of_ok answer]
    rfl
  | error fault => rw [bind_of_error answer]

theorem events_bind_pure (act : Act σ α) (f : α → β) (s : σ) :
    ((act >>= fun a => pure (f a)) s).events = (act s).events := by
  cases answer : (act s).answer with
  | ok a =>
    rw [bind_of_ok answer]
    exact List.append_nil _
  | error fault => rw [bind_of_error answer]

/-- An act preserves what holds of the state if that holds after it too, whether the act answered or
failed. -/
def Preserves (holds : σ → Prop) (act : Act σ α) : Prop := ∀ s, holds s → holds (act s).state

end Act

theorem Host.clock_apply {σ : Type} (host : Host σ) (s : σ) :
    host.clock s = ⟨.ok (host.tick s).1, [], (host.tick s).2⟩ := rfl

namespace Event

def isLog : Event → Bool
  | .log _ => true
  | _ => false

/-- The events that are not records of the log: the commands that were run and the texts that were
printed. -/
def deeds (events : List Event) : List Event := events.filter (!·.isLog)

/-- The commands that were run, in their order. -/
def calls (events : List Event) : List Call :=
  events.filterMap fun
    | .call made => some made
    | _ => none

def printed (events : List Event) : String :=
  String.join (events.filterMap fun
    | .out text => some text
    | _ => none)

def complaints (events : List Event) : List String :=
  events.filterMap fun
    | .err text => some text
    | _ => none

theorem deeds_append (front back : List Event) :
    deeds (front ++ back) = deeds front ++ deeds back :=
  List.filter_append ..

theorem deeds_map_log (records : List Record) : deeds (records.map .log) = [] := by
  induction records with
  | nil => rfl
  | cons record rest ih => exact ih

theorem filterMap_deeds {α : Type} (f : Event → Option α)
    (unlogged : ∀ record, f (.log record) = none) (events : List Event) :
    (deeds events).filterMap f = events.filterMap f := by
  induction events with
  | nil => rfl
  | cons event rest ih =>
    cases event with
    | log record =>
      rw [List.filterMap_cons_none (unlogged record), ← ih]
      rfl
    | call _ | out _ | err _ =>
      simp only [deeds, isLog, Bool.not_false, List.filter_cons_of_pos, List.filterMap_cons]
      rw [← ih]
      rfl

theorem calls_deeds (events : List Event) : calls (deeds events) = calls events :=
  filterMap_deeds _ (fun _ => rfl) events

theorem calls_map_call (made : List Call) : calls (made.map .call) = made := by
  induction made with
  | nil => rfl
  | cons call rest ih => exact congrArg (call :: ·) ih

theorem mem_calls_iff {call : Call} {events : List Event} :
    call ∈ calls events ↔ .call call ∈ events := by
  rw [calls, List.mem_filterMap]
  constructor
  · rintro ⟨event, mem, made⟩
    cases event <;> cases made
    exact mem
  · exact fun mem => ⟨.call call, mem, rfl⟩

theorem calls_append (front back : List Event) :
    calls (front ++ back) = calls front ++ calls back :=
  List.filterMap_append

theorem complaints_map_call (made : List Call) : complaints (made.map .call) = [] := by
  induction made with
  | nil => rfl
  | cons call rest ih => exact ih

theorem complaints_append (front back : List Event) :
    complaints (front ++ back) = complaints front ++ complaints back := List.filterMap_append

theorem printed_deeds (events : List Event) : printed (deeds events) = printed events :=
  congrArg String.join (filterMap_deeds _ (fun _ => rfl) events)

theorem complaints_deeds (events : List Event) : complaints (deeds events) = complaints events :=
  filterMap_deeds _ (fun _ => rfl) events

end Event

namespace Act

variable {σ α β : Type}

/-- An act quietly answers if it does nothing but log, from whatever state. -/
def Quietly (answer : Except Fault α) (act : Act σ α) : Prop :=
  ∀ s, (act s).answer = answer ∧ Event.deeds (act s).events = [] ∧ (act s).state = s

theorem quietly_pure (a : α) : Quietly (.ok a) (pure a : Act σ α) := fun _ => ⟨rfl, rfl, rfl⟩

theorem quietly_fail (fault : Fault) : Quietly (.error fault) (Act.fail fault : Act σ α) :=
  fun _ => ⟨rfl, rfl, rfl⟩

theorem quietly_log (logger : String) (message : Message) :
    Quietly (.ok ()) (Act.log logger message : Act σ Unit) := fun _ => ⟨rfl, rfl, rfl⟩

theorem Quietly.bind_apply {act : Act σ α} {a : α} (first : Quietly (.ok a) act)
    (next : α → Act σ β) (s : σ) :
    ((act >>= next) s).answer = (next a s).answer ∧
      Event.deeds ((act >>= next) s).events = Event.deeds (next a s).events ∧
      ((act >>= next) s).state = (next a s).state := by
  obtain ⟨answer, deeds, state⟩ := first s
  rw [bind_of_ok answer, state]
  refine ⟨rfl, ?_, rfl⟩
  rw [Event.deeds_append, deeds, List.nil_append]

theorem Quietly.bind {act : Act σ α} {next : α → Act σ β} {a : α} {answer : Except Fault β}
    (first : Quietly (.ok a) act) (rest : Quietly answer (next a)) :
    Quietly answer (act >>= next) := by
  intro s
  obtain ⟨answers, deeds, state⟩ := first.bind_apply next s
  rw [answers, deeds, state]
  exact rest s

end Act

end Rollout
