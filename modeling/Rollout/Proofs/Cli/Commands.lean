import Rollout.Cli.Program
import Rollout.Proofs.Command
import Rollout.Proofs.Sequence.Course

/-!
What the commands of the program leave that deploy and run tests.

Each of them answers with the code of the fault that ended its stages, or with zero. It makes the
calls of its stages, and it prints the program id after the rewards stage alone.
-/

set_option autoImplicit false
set_option relaxedAutoImplicit false

namespace Rollout

/-- What an act leaves: its answer, what it did besides logging, and the state after it. -/
structure Leaves {σ α : Type} (ran : Ran σ α) (answer : Except Fault α) (deeds : List Event)
    (state : σ) : Prop where
  answer : ran.answer = answer
  deeds : Event.deeds ran.events = deeds
  state : ran.state = state

namespace Leaves

variable {σ α β : Type}

theorem bind {act : Act σ α} {next : α → Act σ β} {s s' s'' : σ} {a : α} {answer : Except Fault β}
    {done more : List Event} (first : Leaves (act s) (.ok a) done s')
    (rest : Leaves (next a s') answer more s'') :
    Leaves ((act >>= next) s) answer (done ++ more) s'' := by
  rw [Act.bind_of_ok first.answer, first.state]
  exact ⟨rest.answer, by rw [Event.deeds_append, first.deeds, rest.deeds], rest.state⟩

theorem bind_error {act : Act σ α} {next : α → Act σ β} {s s' : σ} {fault : Fault}
    {done : List Event} (first : Leaves (act s) (.error fault) done s') :
    Leaves ((act >>= next) s) (.error fault) done s' := by
  rw [Act.bind_of_error first.answer]
  exact ⟨rfl, first.deeds, first.state⟩

theorem bind_quietly {act : Act σ α} {next : α → Act σ β} {s s' : σ} {a : α}
    {answer : Except Fault β} {done : List Event} (first : Leaves (act s) (.ok a) done s')
    (rest : Act.Quietly answer (next a)) : Leaves ((act >>= next) s) answer done s' := by
  obtain ⟨answers, deeds, state⟩ := rest s'
  rw [← List.append_nil done]
  exact first.bind ⟨answers, deeds, state⟩

theorem of_quiet {act : Act σ α} {next : α → Act σ β} {s s' : σ} {a : α} {answer : Except Fault β}
    {done : List Event} (first : Act.Quietly (.ok a) act)
    (rest : Leaves (next a s) answer done s') :
    Leaves ((act >>= next) s) answer done s' := by
  obtain ⟨answers, deeds, state⟩ := first.bind_apply next s
  exact ⟨answers.trans rest.answer, deeds.trans rest.deeds, state.trans rest.state⟩

theorem calls_eq {ran : Ran σ α} {answer : Except Fault α} {done : List Event} {s : σ}
    (leaves : Leaves ran answer done s) : Event.calls ran.events = Event.calls done := by
  rw [← Event.calls_deeds, leaves.deeds]

end Leaves

namespace Cli

def Command.usesPlan : Command → Bool
  | .run | .plan | .deployRewards | .deployRegistry | .runTests _ => true
  | .stages | .extract _ => false

/-- The answer of a command by the fault that ended its stages, if one did. -/
def codeOf : Option Fault → Except Fault Int
  | none => .ok 0
  | some (.step fault) => .ok fault.exitCode
  | some fault => .error fault

def codeTold : Except Fault Int → Except Fault Int
  | .error (.plan _) => .ok misuseStatus
  | answer => answer

def planFaultTold : Except Fault Int → List Event
  | .error (.plan fault) => [.err (s!"Error: {fault.message}" ++ "\n")]
  | _ => []

theorem calls_planFaultTold (answer : Except Fault Int) :
    Event.calls (planFaultTold answer) = [] := by
  unfold planFaultTold
  split <;> rfl

theorem codeTold_ne_zero {answer : Except Fault Int} (nonzero : answer ≠ .ok 0) :
    codeTold answer ≠ .ok 0 := by
  unfold codeTold
  split
  · intro zero
    exact absurd (Except.ok.inj zero) (by decide)
  · exact nonzero

section Commands

variable {σ : Type} (host : Host σ)

private theorem atDesk_leaves {α : Type} {act : Act (Desk σ) α} {context : Context} {world : σ}
    {answer : Except Fault α} {done : List Event} {desk : Desk σ}
    (ran : Leaves (act ⟨context, world⟩) answer done desk) :
    Leaves (atDesk context act world) (answer.map (·, desk.context)) done desk.world := by
  obtain ⟨rfl, deeds, rfl⟩ := ran
  exact ⟨rfl, deeds, rfl⟩

private theorem attempt_leaves {α : Type} {act : Act σ α} {s s' : σ} {answer : Except Fault α}
    {done : List Event} (ran : Leaves (act s) answer done s') :
    Leaves (Act.attempt act s) (.ok answer) done s' :=
  ⟨congrArg Except.ok ran.answer, ran.deeds, ran.state⟩

def command (situation : Situation) (command : Command) : Act σ Int :=
  tellPlanFault (perform host situation command)

theorem obey_of_read {arguments : List String} {parsed : Command}
    (reads : read arguments = .ok parsed) (situation : Situation) :
    obey host situation arguments = command host situation parsed := by
  simp only [obey, reads, command]

theorem command_leaves {situation : Situation} {parsed : Command} {s s' : σ}
    {answer : Except Fault Int} {done : List Event}
    (ran : Leaves (perform host situation parsed s) answer done s') :
    Leaves (command host situation parsed s) (codeTold answer) (done ++ planFaultTold answer)
      s' := by
  refine (attempt_leaves ran).bind ?_
  cases answer with
  | ok code => exact ⟨rfl, rfl, rfl⟩
  | error fault => cases fault <;> exact ⟨rfl, rfl, rfl⟩

theorem command_of_ok {situation : Situation} {parsed : Command} {s s' : σ} {code : Int}
    {events : List Event}
    (ran : perform host situation parsed s = ⟨.ok code, events, s'⟩) :
    command host situation parsed s = ⟨.ok code, events, s'⟩ := by
  simp only [command, tellPlanFault, Act.bind_apply, Act.attempt_apply, ran, Act.pure_apply,
    List.append_nil]

private theorem exitCode_of_ok {act : Act σ Int} {s s' : σ} {code : Int} {done : List Event}
    (ran : Leaves (act s) (.ok code) done s') : Leaves (exitCode act s) (.ok code) done s' :=
  (attempt_leaves ran).bind_quietly (Act.quietly_pure code)

private theorem exitCode_of_error {act : Act σ Int} {s s' : σ} {fault : Fault} {done : List Event}
    (ran : Leaves (act s) (.error fault) done s') :
    Leaves (exitCode act s) (codeOf (some fault)) done s' := by
  refine (attempt_leaves ran).bind_quietly ?_
  cases fault <;> first | exact Act.quietly_pure _ | exact Act.quietly_fail _

section Steps

variable {context : Context} {step : Step} {world : σ} {call : Call}

theorem runStep_of_ok (made : Stage.callFor context step = .ok call) {outcome : Outcome}
    (returned : Desk.verdict host step call ⟨context, world⟩ = .ok outcome) :
    Leaves (runStep host (.usual host) context step world)
      (.ok (0, context.record step.name outcome)) [.call call] (host.settle call world) := by
  obtain ⟨answer, deeds, state⟩ :=
    Desk.runStage_usual_of_ok host made returned
  have ran : Leaves _ _ _ _ := ⟨answer, deeds, state⟩
  exact atDesk_leaves (exitCode_of_ok (ran.bind_quietly (Act.quietly_pure 0)))

theorem runStep_of_error (made : Stage.callFor context step = .ok call) {fault : Fault}
    (failed : Desk.verdict host step call ⟨context, world⟩ = .error fault) :
    Leaves (runStep host (.usual host) context step world)
      ((codeOf (some fault)).map (·, context)) [.call call] (host.spoil call world) := by
  obtain ⟨answer, deeds, state⟩ :=
    Desk.runStage_usual_of_error host made failed
  have ran : Leaves _ _ _ _ := ⟨answer, deeds, state⟩
  exact atDesk_leaves (exitCode_of_error ran.bind_error)

end Steps

section Loaded

variable {situation : Situation} {context : Context} {world : σ}

private theorem quietly_load (loaded : situation.context = .ok context) :
    Act.Quietly (.ok context) (Act.ofExcept situation.context : Act σ Context) :=
  fun _ => ⟨loaded, rfl, rfl⟩

theorem deployRewards_of_ok (loaded : situation.context = .ok context) {result : Result}
    {programId : String}
    (deployed : Yields (host.reply (Stage.rewardsCall context) world) result programId) :
    Leaves (perform host situation .deployRewards world) (.ok 0)
      [.call (Stage.rewardsCall context), .out (programId ++ "\n")]
      (host.settle (Stage.rewardsCall context) world) := by
  have returned : Desk.verdict host .rewards (Stage.rewardsCall context) ⟨context, world⟩ =
      .ok ⟨context.plan.rewards.name, some result, some programId⟩ :=
    (Desk.verdict_rewards_eq_ok_iff host).mpr ⟨result, programId, deployed, rfl⟩
  refine .of_quiet (quietly_load loaded) ((runStep_of_ok host rfl returned).bind ?_)
  simp only [Context.record, Entries.get?_put_self]
  exact ⟨rfl, rfl, rfl⟩

theorem deployRewards_of_error (loaded : situation.context = .ok context) {fault : Fault}
    (failed : Desk.verdict host .rewards (Stage.rewardsCall context) ⟨context, world⟩ =
      .error fault)
    (nonzero : codeOf (some fault) ≠ .ok 0) :
    Leaves (perform host situation .deployRewards world) (codeOf (some fault))
      [.call (Stage.rewardsCall context)] (host.spoil (Stage.rewardsCall context) world) := by
  refine .of_quiet (quietly_load loaded) ?_
  have ran := runStep_of_error host rfl failed
  cases coded : codeOf (some fault) with
  | error raised =>
    rw [coded] at ran
    exact ran.bind_error
  | ok code =>
    rw [coded] at ran nonzero
    have failing : code ≠ 0 := fun zero => nonzero (congrArg Except.ok zero)
    refine ran.bind_quietly ?_
    simp only [failing, if_false]
    exact Act.quietly_pure code

private theorem code_leaves {answer : Except Fault Int} {act : Act σ (Int × Context)} {s s' : σ}
    {context : Context} {done : List Event}
    (ran : Leaves (act s) (answer.map (·, context)) done s') :
    Leaves ((act >>= fun (code, _) => pure code) s) answer done s' := by
  cases answer with
  | ok code => exact ran.bind_quietly (Act.quietly_pure code)
  | error fault => exact ran.bind_error

theorem deployRegistry_of_ok (loaded : situation.context = .ok context) {outcome : Outcome}
    (returned : Desk.verdict host .registry (Stage.registryCall context) ⟨context, world⟩ =
      .ok outcome) :
    Leaves (perform host situation .deployRegistry world) (.ok 0)
      [.call (Stage.registryCall context)] (host.settle (Stage.registryCall context) world) :=
  .of_quiet (quietly_load loaded) (code_leaves (runStep_of_ok host rfl returned))

theorem deployRegistry_of_error (loaded : situation.context = .ok context) {fault : Fault}
    (failed : Desk.verdict host .registry (Stage.registryCall context) ⟨context, world⟩ =
      .error fault) :
    Leaves (perform host situation .deployRegistry world) (codeOf (some fault))
      [.call (Stage.registryCall context)] (host.spoil (Stage.registryCall context) world) :=
  .of_quiet (quietly_load loaded) (code_leaves (runStep_of_error host rfl failed))

/-- The context in which tests are run by themselves, with a program id. -/
def seeded (context : Context) (programId : String) : Context :=
  context.record Step.rewards.name ⟨Step.rewards.name, none, some programId⟩

theorem programId_seeded (context : Context) (programId : String) :
    (seeded context programId).programId = some programId := by
  simp only [seeded, Context.programId, Context.record, Entries.get?_put_self]
  rfl

theorem readyProgramId_seeded (context : Context) {programId : String}
    (inked : Text.isBlankText programId = false) :
    Stage.readyProgramId (seeded context programId) = .ok programId :=
  Stage.readyProgramId_eq_ok (programId_seeded context programId) inked

private theorem callFor_seeded (context : Context) {programId : String}
    (inked : Text.isBlankText programId = false) :
    Stage.callFor (seeded context programId) .tests = .ok (Stage.testsCall context programId) := by
  simp only [Stage.callFor, readyProgramId_seeded context inked]
  rfl

theorem runTests_of_ok (loaded : situation.context = .ok context) {programId : String}
    (inked : Text.isBlankText programId = false) {outcome : Outcome}
    (returned : Desk.verdict host .tests (Stage.testsCall context programId)
      ⟨seeded context programId, world⟩ = .ok outcome) :
    Leaves (perform host situation (.runTests (some programId)) world) (.ok 0)
      [.call (Stage.testsCall context programId)]
      (host.settle (Stage.testsCall context programId) world) :=
  .of_quiet (quietly_load loaded)
    (code_leaves (runStep_of_ok host (callFor_seeded context inked) returned))

theorem runTests_of_error (loaded : situation.context = .ok context) {programId : String}
    (inked : Text.isBlankText programId = false) {fault : Fault}
    (failed : Desk.verdict host .tests (Stage.testsCall context programId)
      ⟨seeded context programId, world⟩ = .error fault) :
    Leaves (perform host situation (.runTests (some programId)) world) (codeOf (some fault))
      [.call (Stage.testsCall context programId)]
      (host.spoil (Stage.testsCall context programId) world) :=
  .of_quiet (quietly_load loaded)
    (code_leaves (runStep_of_error host (callFor_seeded context inked) failed))

def runFaultTold : Option Fault → List Event
  | some (.step fault) => [.err (s!"Error: {fault.message}" ++ "\n")]
  | _ => []

theorem calls_runFaultTold (fault? : Option Fault) : Event.calls (runFaultTold fault?) = [] := by
  unfold runFaultTold
  split <;> rfl

theorem runAll_leaves (loaded : situation.context = .ok context) {steps : List Step}
    {calls : List Call} {fault? : Option Fault} {desk : Desk σ}
    (ends : Ends (Bench.run host (.usual host) ⟨.fresh, ⟨context, world⟩⟩) steps calls fault?
      desk) :
    Leaves (perform host situation .run world) (codeOf fault?)
      (calls.map .call ++ runFaultTold fault?) desk.world := by
  obtain ⟨answer, deeds, state⟩ := ends
  have ran : Leaves (Desk.runSequence host ⟨context, world⟩) (Close.of desk.context fault?).answer
      (calls.map .call) desk := ⟨answer, deeds, congrArg Bench.desk state⟩
  refine .of_quiet (quietly_load loaded) (.of_quiet (Act.quietly_log _ _) ?_)
  have atDesk := atDesk_leaves ran
  rcases fault? with _ | fault
  · exact atDesk.bind ⟨rfl, rfl, rfl⟩
  · cases fault with
    | step fault => exact atDesk.bind ⟨rfl, rfl, rfl⟩
    | _ => simpa only [runFaultTold, List.append_nil, codeOf] using atDesk.bind_error

theorem perform_of_unloaded {parsed : Command} (uses : parsed.usesPlan = true) {fault : Fault}
    (unloaded : situation.context = .error fault) :
    perform host situation parsed world = ⟨.error fault, [], world⟩ := by
  have stopped (next : Context → Act σ Int) :
      (Act.ofExcept situation.context >>= next) world = ⟨.error fault, [], world⟩ := by
    rw [unloaded]
    rfl
  cases parsed with
  | run | plan | deployRewards | deployRegistry | runTests => exact stopped _
  | stages | extract => cases uses

theorem runAll_of_unloaded {fault : Fault} (unloaded : situation.context = .error fault) :
    Leaves (perform host situation .run world) (.error fault) [] world := by
  rw [perform_of_unloaded host rfl unloaded]
  exact ⟨rfl, rfl, rfl⟩

theorem deployRewards_of_unloaded {fault : Fault} (unloaded : situation.context = .error fault) :
    Leaves (perform host situation .deployRewards world) (.error fault) [] world := by
  rw [perform_of_unloaded host rfl unloaded]
  exact ⟨rfl, rfl, rfl⟩

end Loaded

end Commands

end Cli

end Rollout
