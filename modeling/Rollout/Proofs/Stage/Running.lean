import Rollout.Proofs.Act
import Rollout.Stage

/-!
What the running of a stage leaves.

For any stage: what its action left, between the records of its start and of its end, and the
outcome if there is one. For the three stages of a rollout: the call that the step makes in its
context, and what is made of the answer.
-/

set_option autoImplicit false
set_option relaxedAutoImplicit false

namespace Rollout

def Context.recorded (context : Context) (name : String) : Option Outcome → Context
  | none => context
  | some outcome => context.record name outcome

namespace Host

variable {σ : Type} (host : Host σ)

/-- The answer to the call of a stage that starts in a world; the clock is read before the call. -/
def reply (call : Call) (world : σ) : Except Fault Result :=
  (host.launch call (host.tick world).2).answer

/-- The world that the call of a stage leaves if the stage does not return. -/
def spoil (call : Call) (world : σ) : σ := (host.launch call (host.tick world).2).world

/-- The world that a stage leaves if it returns; the clock is read once more. -/
def settle (call : Call) (world : σ) : σ := (host.tick (host.spoil call world)).2

end Host

namespace Desk

variable {σ : Type} (host : Host σ) {catalogue : Catalogue σ} {name : String} {stage : Stage σ}

/-- The message about the failure of a stage; there is none about an interruption. -/
def failure? (name : String) : Fault → Option Message
  | .step fault => some (.stageFailed name fault)
  | .interrupted _ => none
  | fault => some (.stageBroke name fault)

def failures (logger name : String) (fault : Fault) : List Event :=
  ((failure? name fault).map fun message => .log (.of logger message)).toList

theorem deeds_failures (logger name : String) (fault : Fault) :
    Event.deeds (failures logger name fault) = [] := by
  cases fault <;> rfl

def started (context : Context) (name : String) : Message :=
  .stageStarted name context.runId (context.timestamp.text "T")

theorem record_apply (outcome : Option Outcome) (desk : Desk σ) :
    record name outcome desk =
      ⟨.ok (), [], ⟨desk.context.recorded name outcome, desk.world⟩⟩ := by
  cases outcome <;> rfl

private theorem logFailure_apply (logger : String) (fault : Fault) (desk : Desk σ) :
    logFailure logger name fault desk = ⟨.ok (), failures logger name fault, desk⟩ := by
  cases fault <;> rfl

theorem runStage_of_missing {fault : Fault} (missing : catalogue.find name = .error fault)
    (desk : Desk σ) : runStage host catalogue name desk = ⟨.error fault, [], desk⟩ := by
  simp only [runStage, Act.bind_apply, Act.ofExcept_apply, missing]

theorem runStage_of_ok (found : catalogue.find name = .ok stage) (desk : Desk σ)
    {outcome : Option Outcome}
    (answer : (stage.action desk.context (host.tick desk.world).2).answer = .ok outcome) :
    runStage host catalogue name desk =
      let ran := stage.action desk.context (host.tick desk.world).2
      let seconds := (host.tick ran.state).1.sub (host.tick desk.world).1
      ⟨.ok outcome,
        .log (.of stage.logger (started desk.context name)) ::
          (ran.events ++ [.log (.of stage.logger (.stageCompleted name seconds))]),
        ⟨desk.context.recorded name outcome, (host.tick ran.state).2⟩⟩ := by
  simp only [runStage, Act.bind_apply, Act.ofExcept_apply, found, Act.get_apply, Act.log_apply,
    inWorld, Act.focus_apply, Host.clock_apply, Act.attempt_apply, answer, record_apply,
    Act.pure_apply, List.nil_append, List.append_nil]
  rfl

theorem runStage_of_error (found : catalogue.find name = .ok stage) (desk : Desk σ) {fault : Fault}
    (answer : (stage.action desk.context (host.tick desk.world).2).answer = .error fault) :
    runStage host catalogue name desk =
      let ran := stage.action desk.context (host.tick desk.world).2
      ⟨.error fault,
        .log (.of stage.logger (started desk.context name)) ::
          (ran.events ++ failures stage.logger name fault),
        ⟨desk.context, ran.state⟩⟩ := by
  simp only [runStage, Act.bind_apply, Act.ofExcept_apply, found, Act.get_apply, Act.log_apply,
    inWorld, Act.focus_apply, Host.clock_apply, Act.attempt_apply, answer, logFailure_apply,
    Act.fail_apply, List.nil_append, List.append_nil]
  rfl

theorem context_of_runStage_error {desk : Desk σ} {fault : Fault}
    (failed : (runStage host catalogue name desk).answer = .error fault) :
    (runStage host catalogue name desk).state.context = desk.context := by
  cases found : catalogue.find name with
  | error missing => rw [runStage_of_missing host found]
  | ok stage =>
    cases answer : (stage.action desk.context (host.tick desk.world).2).answer with
    | error raised => rw [runStage_of_error host found desk answer]
    | ok outcome =>
      rw [runStage_of_ok host found desk answer] at failed
      cases failed

end Desk

namespace Stage

variable {σ : Type} (host : Host σ)

def kindOf : Step → CommandKind
  | .rewards | .registry => .deploy
  | .tests => .tests

/-- The call that the stage of a step makes in a context, or why it makes none. -/
def callFor (context : Context) : Step → Except Fault Call
  | .rewards => .ok (rewardsCall context)
  | .registry => .ok (registryCall context)
  | .tests => (readyProgramId context).map (testsCall context)

/-- The call of a step in a run whose rewards command named a program. -/
def callWith (context : Context) (programId : String) : Step → Call
  | .rewards => rewardsCall context
  | .registry => registryCall context
  | .tests => testsCall context programId

theorem registryCall_ne_rewardsCall (context : Context) :
    registryCall context ≠ rewardsCall context := fun same => nomatch congrArg Call.capture same

theorem testsCall_ne_rewardsCall (context : Context) (programId : String) :
    testsCall context programId ≠ rewardsCall context := fun same =>
  nomatch congrArg Call.overlay same

theorem testsCall_ne_registryCall (context : Context) (programId : String) :
    testsCall context programId ≠ registryCall context := fun same =>
  nomatch congrArg Call.overlay same

/-- The program id that the stage of a step hands on after its command succeeded, or why it hands on
none. -/
def handedOn (context : Context) (result : Result) : Step → Except Fault (Option String)
  | .rewards =>
    match Token.extract (result.output.getD "") with
    | .error fault => .error (.step (.extraction context.plan.rewards.name (.token fault) 1))
    | .ok programId => .ok (some programId)
  | .registry => .ok none
  | .tests => .ok context.programId

/-- What the stage of a step makes of the result of its command. -/
def judge (context : Context) (step : Step) (result : Result) : Except Fault Outcome :=
  let name := (context.plan.command step).name
  if result.ok then
    (handedOn context result step).map fun programId => ⟨name, some result, programId⟩
  else .error (.step (.command (kindOf step) name result))

theorem programId_of_ready {context : Context} {programId : String}
    (ready : readyProgramId context = .ok programId) :
    context.programId = some programId ∧ Text.isBlankText programId = false := by
  unfold readyProgramId at ready
  split at ready
  · cases ready
  · rename_i found
    split at ready
    · cases ready
    · rename_i inked
      cases ready
      exact ⟨found, by simpa using inked⟩

theorem readyProgramId_eq_ok {context : Context} {programId : String}
    (found : context.programId = some programId) (inked : Text.isBlankText programId = false) :
    readyProgramId context = .ok programId := by
  simp only [readyProgramId, found, inked]
  rfl

/-- What the action of a stage leaves that calls a command: the call is all that is done, and the
answer is made of the reply. -/
def Makes (world : σ) (call : Call) (judge : Result → Except Fault Outcome)
    (ran : Ran σ (Option Outcome)) : Prop :=
  ran.answer = ((host.launch call world).answer.bind judge).map some ∧
    Event.deeds ran.events = [.call call] ∧ ran.state = (host.launch call world).world

private theorem makes_perform {call : Call} {judge : Result → Except Fault Outcome}
    {next : Result → Act σ (Option Outcome)}
    (quiet : ∀ result, Act.Quietly ((judge result).map some) (next result)) (world : σ) :
    Makes host world call judge ((host.perform call >>= next) world) := by
  have only : Event.deeds (host.perform call world).events = [.call call] :=
    congrArg (Event.call call :: ·) (Event.deeds_map_log _)
  cases answer : (host.launch call world).answer with
  | error fault =>
    rw [Makes, Act.bind_of_error answer, answer]
    exact ⟨rfl, only, rfl⟩
  | ok result =>
    rw [Makes, Act.bind_of_ok answer, answer, Event.deeds_append, only]
    obtain ⟨judged, deeds, state⟩ := quiet result (host.perform call world).state
    rw [judged, deeds, state]
    exact ⟨rfl, rfl, rfl⟩

private theorem Makes.of_quiet {α : Type} {world : σ} {call : Call}
    {judge : Result → Except Fault Outcome} {act : Act σ α} {a : α}
    {next : α → Act σ (Option Outcome)} (first : Act.Quietly (.ok a) act)
    (makes : Makes host world call judge (next a world)) :
    Makes host world call judge ((act >>= next) world) := by
  obtain ⟨answer, deeds, state⟩ := first.bind_apply next world
  rw [Makes, answer, deeds, state]
  exact makes

private theorem quietly_showOutput (step : String) (output : Option String) :
    Act.Quietly (.ok ()) (showOutput step output : Act σ Unit) := by
  unfold showOutput
  split
  · split
    · exact Act.quietly_pure ()
    · exact Act.quietly_log _ _
  · exact Act.quietly_pure ()

private theorem deployRewards_makes (context : Context) (world : σ) :
    Makes host world (rewardsCall context) (judge context .rewards)
      (deployRewards host context world) := by
  refine makes_perform host (fun result => ?_) world
  simp only [judge]
  cases result.ok with
  | false => exact (quietly_showOutput _ _).bind (Act.quietly_fail _)
  | true =>
    refine (Act.quietly_log _ _).bind ?_
    simp only [handedOn, programIdIn]
    cases Token.extract (result.output.getD "") with
    | error fault => exact Act.quietly_fail _
    | ok programId => exact (Act.quietly_log _ _).bind (Act.quietly_pure _)

private theorem deployRegistry_makes (context : Context) (world : σ) :
    Makes host world (registryCall context) (judge context .registry)
      (deployRegistry host context world) := by
  refine makes_perform host (fun result => ?_) world
  simp only [judge]
  cases result.ok with
  | false => exact Act.quietly_fail _
  | true => exact Act.quietly_pure _

private theorem runTests_makes {context : Context} {programId : String}
    (ready : readyProgramId context = .ok programId) (world : σ) :
    Makes host world (testsCall context programId) (judge context .tests)
      (runTests host context world) := by
  have found := (programId_of_ready ready).1
  have guard : Act.Quietly (.ok programId) (Act.ofExcept (readyProgramId context) : Act σ String) :=
    fun _ => ⟨ready, rfl, rfl⟩
  refine .of_quiet host guard (.of_quiet host (Act.quietly_log _ _) ?_)
  refine makes_perform host (fun result => ?_) world
  simp only [judge, handedOn, found]
  cases result.ok with
  | false => exact Act.quietly_fail _
  | true => exact Act.quietly_pure _

theorem action_makes {context : Context} {step : Step} {call : Call}
    (made : callFor context step = .ok call) (world : σ) :
    Makes host world call (judge context step) ((ofStep host step).action context world) := by
  cases step with
  | rewards =>
    cases made
    exact deployRewards_makes host context world
  | registry =>
    cases made
    exact deployRegistry_makes host context world
  | tests =>
    simp only [callFor] at made
    cases ready : readyProgramId context with
    | error fault =>
      rw [ready] at made
      cases made
    | ok programId =>
      rw [ready] at made
      cases made
      exact runTests_makes host ready world

theorem action_of_refused {context : Context} {step : Step} {fault : Fault}
    (refused : callFor context step = .error fault) (world : σ) :
    (ofStep host step).action context world = ⟨.error fault, [], world⟩ := by
  cases step with
  | rewards => cases refused
  | registry => cases refused
  | tests =>
    simp only [callFor] at refused
    cases ready : readyProgramId context with
    | error reason =>
      rw [ready] at refused
      cases refused
      simp only [ofStep, runTests, Act.bind_apply, Act.ofExcept_apply, ready]
    | ok programId =>
      rw [ready] at refused
      cases refused

theorem exists_callWith_of_callFor {context : Context} {step : Step} {call : Call}
    (made : callFor context step = .ok call) :
    ∃ programId, call = callWith context programId step := by
  cases step with
  | rewards | registry =>
    cases made
    exact ⟨"", rfl⟩
  | tests =>
    rw [callFor] at made
    cases ready : readyProgramId context with
    | error fault =>
      rw [ready] at made
      cases made
    | ok programId =>
      rw [ready] at made
      cases made
      exact ⟨programId, rfl⟩

theorem exists_callWith_of_mem_calls {context : Context} {step : Step} {world : σ} {call : Call}
    (mem : call ∈ Event.calls ((ofStep host step).action context world).events) :
    ∃ programId, call = callWith context programId step := by
  cases made : callFor context step with
  | error fault =>
    rw [action_of_refused host made] at mem
    cases mem
  | ok expected =>
    obtain ⟨-, deeds, -⟩ := action_makes host made world
    rw [← Event.calls_deeds, deeds] at mem
    cases List.mem_singleton.mp mem
    exact exists_callWith_of_callFor made

end Stage

theorem Catalogue.find_usual {σ : Type} (host : Host σ) (step : Step) :
    (Catalogue.usual host).find step.name = .ok (Stage.ofStep host step) := by
  cases step <;> rfl

theorem Catalogue.step_of_find {σ : Type} {host : Host σ} {name : String} {stage : Stage σ}
    (found : (Catalogue.usual host).find name = .ok stage) : ∃ step : Step, name = step.name := by
  refine Classical.byContradiction fun unnamed => ?_
  have other : ∀ step : Step, step.name ≠ name := fun step same => unnamed ⟨step, same.symm⟩
  simp [find, usual, Step.all, Entries.get?, other] at found

theorem Catalogue.step_of_get?_usual {σ : Type} {host : Host σ} {name : String} {stage : Stage σ}
    (held : (usual host).get? name = some stage) :
    ∃ step : Step, name = step.name ∧ stage = Stage.ofStep host step := by
  have found : (usual host).find name = .ok stage := by rw [find, held]
  obtain ⟨step, rfl⟩ := step_of_find found
  cases (find_usual host step).symm.trans found
  exact ⟨step, rfl, rfl⟩

theorem Catalogue.missing_usual {σ : Type} (host : Host σ) :
    (Catalogue.usual host).missing (Step.all.map Step.name) = [] := rfl

namespace Desk

variable {σ : Type} (host : Host σ) {step : Step} {desk : Desk σ}

/-- What is made of the answer to a call of a step, from a desk. -/
def verdict (step : Step) (call : Call) (desk : Desk σ) : Except Fault Outcome :=
  (host.reply call desk.world).bind (Stage.judge desk.context step)

theorem runStage_usual_of_refused {fault : Fault}
    (refused : Stage.callFor desk.context step = .error fault) :
    let ran := runStage host (.usual host) step.name desk
    ran.answer = .error fault ∧ Event.deeds ran.events = [] ∧
      ran.state = ⟨desk.context, (host.tick desk.world).2⟩ := by
  have idle := Stage.action_of_refused host refused (host.tick desk.world).2
  have answer := congrArg Ran.answer idle
  rw [runStage_of_error host (Catalogue.find_usual host step) desk answer, idle]
  exact ⟨rfl, deeds_failures .., rfl⟩

theorem runStage_usual_of_error {call : Call} {fault : Fault}
    (made : Stage.callFor desk.context step = .ok call)
    (failed : verdict host step call desk = .error fault) :
    let ran := runStage host (.usual host) step.name desk
    ran.answer = .error fault ∧ Event.deeds ran.events = [.call call] ∧
      ran.state = ⟨desk.context, host.spoil call desk.world⟩ := by
  obtain ⟨answer, deeds, state⟩ := Stage.action_makes host made (host.tick desk.world).2
  have raised : _ = Except.error fault := answer.trans (congrArg (Except.map some) failed)
  rw [runStage_of_error host (Catalogue.find_usual host step) desk raised]
  refine ⟨rfl, ?_, congrArg (Desk.mk desk.context) state⟩
  refine (Event.deeds_append _ _).trans ?_
  rw [deeds_failures, List.append_nil]
  exact deeds

theorem runStage_usual_of_ok {call : Call} {outcome : Outcome}
    (made : Stage.callFor desk.context step = .ok call)
    (succeeded : verdict host step call desk = .ok outcome) :
    let ran := runStage host (.usual host) step.name desk
    ran.answer = .ok (some outcome) ∧ Event.deeds ran.events = [.call call] ∧
      ran.state = ⟨desk.context.record step.name outcome, host.settle call desk.world⟩ := by
  obtain ⟨answer, deeds, state⟩ := Stage.action_makes host made (host.tick desk.world).2
  have returned : _ = Except.ok (some outcome) :=
    answer.trans (congrArg (Except.map some) succeeded)
  rw [runStage_of_ok host (Catalogue.find_usual host step) desk returned]
  refine ⟨rfl, ?_, ?_⟩
  · exact (Event.deeds_append _ _).trans (congrArg (· ++ []) deeds)
  · exact congrArg (fun world => Desk.mk _ (host.tick world).2) state

theorem exists_verdict_of_returned {outcome? : Option Outcome}
    (returned : (runStage host (.usual host) step.name desk).answer = .ok outcome?) :
    ∃ call outcome, Stage.callFor desk.context step = .ok call ∧
      verdict host step call desk = .ok outcome ∧
      (runStage host (.usual host) step.name desk).state =
        ⟨desk.context.record step.name outcome, host.settle call desk.world⟩ := by
  cases made : Stage.callFor desk.context step with
  | error fault =>
    have refused := (runStage_usual_of_refused host made).1
    exact nomatch refused.symm.trans returned
  | ok call =>
    cases judged : verdict host step call desk with
    | error fault =>
      have failed := (runStage_usual_of_error host made judged).1
      exact nomatch failed.symm.trans returned
    | ok outcome => exact ⟨call, outcome, rfl, judged, (runStage_usual_of_ok host made judged).2.2⟩

end Desk

end Rollout
