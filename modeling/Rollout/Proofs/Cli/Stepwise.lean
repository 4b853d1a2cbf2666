import Rollout.Proofs.Cli.Commands

/-!
A rollout step by step.

The three commands that run one step each, every one of them in a context of its own, do what one
run does: they make the same calls and end with the same status. The program id goes from the first
of them to the last by way of what the first prints.
-/

set_option autoImplicit false
set_option relaxedAutoImplicit false

namespace Rollout

namespace Context

theorem load_cases (disk : Disk) (environment : Environment) :
    (∃ fault, ∀ now, load disk environment now = .error fault) ∨
      ∃ settings plan, ∃ runId : Moment → String, ∀ now, load disk environment now =
        .ok ⟨settings, plan, runId now, now, settings.workspace, []⟩ := by
  cases settled : Settings.load disk environment with
  | error fault =>
    refine .inl ⟨fault, fun now => ?_⟩
    simp only [load, settled]
    rfl
  | ok settings =>
    cases planned : Plan.load disk settings.make settings.planPath with
    | error fault =>
      refine .inl ⟨fault, fun now => ?_⟩
      simp only [load, settled, planned, bind, Except.bind]
    | ok plan =>
      refine .inr ⟨settings, plan, Moment.digits, fun now => ?_⟩
      simp only [load, settled, planned, bind, Except.bind]
      rfl

end Context

section Verdicts

variable {σ : Type} (host : Host σ) {desk : Desk σ} {step : Step} {call : Call}

theorem codeOf_verdict_ne_zero (own : host.RaisesNoStepFault) {fault : Fault}
    (failed : desk.verdict host step call = .error fault) : Cli.codeOf (some fault) ≠ .ok 0 := by
  intro zero
  rcases Desk.verdict_error_cases host failed with
    replied | ⟨result, -, rfl | ⟨reason, rfl⟩⟩
  · cases fault with
    | step stepFault => exact own _ _ _ replied
    | _ => cases zero
  · have positive := result.exitCode_pos
    have none_left : result.exitCode = 0 := Except.ok.inj zero
    omega
  · exact absurd (Except.ok.inj zero) (by decide : (1 : Int) ≠ 0)

end Verdicts

namespace Cli

variable {σ : Type} (host : Host σ)

/-- Do an act; the text that it prints is a part of the answer. -/
def heard {α : Type} (act : Act σ α) : Act σ (α × String) := fun s =>
  let ran := act s
  ⟨ran.answer.map (·, Event.printed ran.events), ran.events, ran.state⟩

/-- Do an act; if it answers with zero, go on with what it printed. -/
def andThen (act : Act σ Int) (next : String → Act σ Int) : Act σ Int := do
  let (code, printed) ← heard act
  if code = 0 then next printed else return code

/-- A printed line without its line end. -/
def lineOf (printed : String) : String := String.ofList printed.toList.dropLast

/-- The three steps one by one, each in its own situation, up to the first that does not answer with
zero. The tests are given the line that the rewards command printed. -/
def stepwise (first second third : Situation) : Act σ Int :=
  andThen (command host first .deployRewards) fun printed =>
    andThen (command host second .deployRegistry) fun _ =>
      command host third (.runTests (some (lineOf printed)))

theorem lineOf_append (text : String) : lineOf (text ++ "\n") = text := by
  simp [lineOf]

/-- What an act does: its answer, the calls that it makes and the state after it. -/
private structure Does (ran : Ran σ Int) (answer : Except Fault Int) (calls : List Call)
    (state : σ) : Prop where
  answer : ran.answer = answer
  calls : Event.calls ran.events = calls
  state : ran.state = state

private theorem Does.stop {act : Act σ Int} {next : String → Act σ Int} {s s' : σ}
    {answer : Except Fault Int} {calls : List Call} (does : Does (act s) answer calls s')
    (nonzero : answer ≠ .ok 0) : Does (andThen act next s) answer calls s' := by
  obtain ⟨answers, rfl, rfl⟩ := does
  have heardOf : (heard act s).answer = answer.map (·, Event.printed (act s).events) :=
    congrArg (Except.map _) answers
  unfold andThen
  cases answer with
  | error fault =>
    rw [Act.bind_of_error heardOf]
    exact ⟨rfl, rfl, rfl⟩
  | ok code =>
    have failing : code ≠ 0 := fun zero => nonzero (congrArg Except.ok zero)
    rw [Act.bind_of_ok heardOf]
    simp only [failing, if_false]
    exact ⟨rfl, congrArg Event.calls (List.append_nil _), rfl⟩

private theorem Does.goOn {act : Act σ Int} {next : String → Act σ Int} {s s' s'' : σ}
    {answer : Except Fault Int} {calls more : List Call} (does : Does (act s) (.ok 0) calls s')
    (rest : Does (next (Event.printed (act s).events) s') answer more s'') :
    Does (andThen act next s) answer (calls ++ more) s'' := by
  obtain ⟨zero, rfl, rfl⟩ := does
  have heardOf : (heard act s).answer = .ok (0, Event.printed (act s).events) :=
    congrArg (Except.map _) zero
  unfold andThen
  rw [Act.bind_of_ok heardOf]
  simp only [if_true]
  refine ⟨rest.answer, ?_, rest.state⟩
  rw [← rest.calls]
  exact Event.calls_append _ _

private theorem does_command {situation : Situation} {c : Command} {world after : σ}
    {answer : Except Fault Int} {done : List Event}
    (leaves : Leaves (perform host situation c world) answer done after) :
    Does (command host situation c world) (codeTold answer) (Event.calls done) after := by
  have told := command_leaves host leaves
  have calls : Event.calls (done ++ planFaultTold answer) = Event.calls done := by
    rw [Event.calls_append, calls_planFaultTold, List.append_nil]
  exact ⟨told.answer, told.calls_eq.trans calls, told.state⟩

private theorem does_run {situation : Situation} {context : Context} {world : σ}
    (loaded : situation.context = .ok context) {steps : List Step} {calls : List Call}
    {fault? : Option Fault} {desk : Desk σ}
    (ends : Ends (Bench.run host (.usual host) ⟨.fresh, ⟨context, world⟩⟩) steps calls fault?
      desk) :
    Does (command host situation .run world) (codeTold (codeOf fault?)) calls desk.world := by
  have does := does_command host (runAll_leaves host loaded ends)
  rw [Event.calls_append, Event.calls_map_call, calls_runFaultTold, List.append_nil] at does
  exact does

private theorem printed_deployRewards {situation : Situation} {context : Context} {world : σ}
    (loaded : situation.context = .ok context) {result : Result} {programId : String}
    (deployed : Yields (host.reply (Stage.rewardsCall context) world) result programId) :
    Event.printed (command host situation .deployRewards world).events = programId ++ "\n" := by
  have told := command_leaves host (deployRewards_of_ok host loaded deployed)
  rw [← Event.printed_deeds]
  refine (congrArg Event.printed told.deeds).trans ?_
  simp [Event.printed, planFaultTold]

private theorem does_stepwise_tests {first second third : Situation} {context other : Context}
    {world : σ} (loaded : first.context = .ok context) {result registration : Result}
    {programId : String}
    (deployed : Yields (host.reply (Stage.rewardsCall context) world) result programId)
    (reloaded : second.context = .ok other)
    (registered : Succeeds (host.reply (Stage.registryCall other)
      (host.settle (Stage.rewardsCall context) world)) registration)
    {answer : Except Fault Int} {calls : List Call} {after : σ}
    (tests : Does (command host third (.runTests (some programId))
      (host.settle (Stage.registryCall other) (host.settle (Stage.rewardsCall context) world)))
      answer calls after) :
    Does (stepwise host first second third world) answer
      (Stage.rewardsCall context :: Stage.registryCall other :: calls) after := by
  have returned : Desk.verdict host .registry (Stage.registryCall other)
      ⟨other, host.settle (Stage.rewardsCall context) world⟩ = .ok _ :=
    (Desk.verdict_registry_eq_ok_iff host).mpr ⟨registration, registered, rfl⟩
  have line : lineOf (Event.printed (command host first .deployRewards world).events) =
      programId := by
    rw [printed_deployRewards host loaded deployed, lineOf_append]
  have deploy := does_command host (deployRewards_of_ok host loaded deployed)
  have register := does_command host (deployRegistry_of_ok host reloaded returned)
  exact deploy.goOn (register.goOn (line.symm ▸ tests))

section Steps

variable (disk : Disk) (environment : Environment) (input : List UInt8)

private theorem does_stepwise (own : host.RaisesNoStepFault) (now first second third : Moment)
    (world : σ) :
    let seen (moment : Moment) : Situation := ⟨disk, environment, moment, input⟩
    ∃ answer calls after, Does (command host (seen now) .run world) answer calls after ∧
      Does (stepwise host (seen first) (seen second) (seen third) world) answer calls after := by
  intro seen
  rcases Context.load_cases disk environment with
    ⟨fault, unloaded⟩ | ⟨settings, plan, runId, loaded⟩
  · have unloaded : ∀ moment, (seen moment).context = .error fault := unloaded
    have failed : codeTold (.error fault) ≠ .ok 0 := codeTold_ne_zero nofun
    exact ⟨_, _, _, does_command host (runAll_of_unloaded host (unloaded now)),
      (does_command host (deployRewards_of_unloaded host (unloaded first))).stop failed⟩
  let context (moment : Moment) : Context :=
    ⟨settings, plan, runId moment, moment, settings.workspace, []⟩
  have loaded : ∀ moment, (seen moment).context = .ok (context moment) := loaded
  cases course_run host ⟨context now, world⟩ with
  | rewards fault failed ends =>
    have nonzero := codeOf_verdict_ne_zero host own failed
    have deploy := does_command host (deployRewards_of_error host (loaded first) failed nonzero)
    exact ⟨_, _, _, does_run host (loaded now) ends, deploy.stop (codeTold_ne_zero nonzero)⟩
  | registry result programId deployed fault failed ends =>
    have nonzero := codeOf_verdict_ne_zero host own failed
    have deploy := does_command host (deployRewards_of_ok host (loaded first) deployed)
    have register := does_command host (deployRegistry_of_error host (loaded second) failed)
    exact ⟨_, _, _, does_run host (loaded now) ends,
      deploy.goOn (register.stop (codeTold_ne_zero nonzero))⟩
  | tests result registration programId deployed registered fault failed ends =>
    -- The outcome of the rewards stage is another one here, but the program id in it is the same.
    have same : ((Desk.mk (context now) world).afterRewards host result programId
        |>.afterRegistry host registration).context.programId =
          (seeded (context third) programId).programId :=
      (Desk.callFor_tests host _ registration deployed.2).1.trans (programId_seeded _ _).symm
    have refused := (Desk.verdict_tests_congr host same rfl).symm.trans failed
    have test := does_command host (runTests_of_error host (loaded third) deployed.2.2 refused)
    exact ⟨_, _, _, does_run host (loaded now) ends,
      does_stepwise_tests host (loaded first) deployed (loaded second) registered test⟩
  | done result registration verification programId deployed registered tested ends =>
    have passed : Desk.verdict host .tests _ ⟨seeded (context third) programId, _⟩ = .ok _ :=
      (Desk.verdict_tests_eq_ok_iff host).mpr ⟨verification, tested, rfl⟩
    have test := does_command host (runTests_of_ok host (loaded third) deployed.2.2 passed)
    exact ⟨_, _, _, does_run host (loaded now) ends,
      does_stepwise_tests host (loaded first) deployed (loaded second) registered test⟩

private theorem yields_or_fails (own : host.RaisesNoStepFault) (context : Context) (world : σ) :
    (∃ result programId,
        Yields (host.reply (Stage.rewardsCall context) world) result programId) ∨
      ∃ fault, Desk.verdict host .rewards (Stage.rewardsCall context) ⟨context, world⟩ =
        .error fault ∧ codeOf (some fault) ≠ .ok 0 := by
  cases judged : Desk.verdict host .rewards (Stage.rewardsCall context) ⟨context, world⟩ with
  | ok outcome =>
    obtain ⟨result, programId, deployed, -⟩ := (Desk.verdict_rewards_eq_ok_iff host).mp judged
    exact .inl ⟨result, programId, deployed⟩
  | error fault => exact .inr ⟨fault, rfl, codeOf_verdict_ne_zero host own judged⟩

private theorem outcome_of_zero (own : host.RaisesNoStepFault) {context after : Context} {world : σ}
    (zero : (runStep host (.usual host) context .rewards world).answer = .ok (0, after)) :
    ∃ outcome programId, after.outcomes.get? Step.rewards.name = some outcome ∧
      outcome.programId = some programId := by
  rcases yields_or_fails host own context world with
    ⟨result, programId, deployed⟩ | ⟨fault, failed, nonzero⟩
  · have returned : Desk.verdict host .rewards _ ⟨context, world⟩ = .ok _ :=
      (Desk.verdict_rewards_eq_ok_iff host).mpr ⟨result, programId, deployed, rfl⟩
    have answer := (runStep_of_ok host rfl returned).answer
    cases zero.symm.trans answer
    exact ⟨_, programId, Entries.get?_put_self .., rfl⟩
  · have answer := zero.symm.trans (runStep_of_error host rfl failed).answer
    cases coded : codeOf (some fault) with
    | error raised =>
      rw [coded] at answer
      cases answer
    | ok code =>
      rw [coded] at answer
      cases answer
      exact absurd coded nonzero

private theorem printed_of_zero (own : host.RaisesNoStepFault) {situation : Situation} {world : σ}
    (zero : (command host situation .deployRewards world).answer = .ok 0) :
    ∃ programId,
      Event.printed (command host situation .deployRewards world).events = programId ++ "\n" ∧
        ∀ context, Stage.readyProgramId (seeded context programId) = .ok programId := by
  cases loaded : situation.context with
  | error fault =>
    have told : Does (command host situation .deployRewards world) _ _ _ :=
      does_command host (deployRewards_of_unloaded host loaded)
    exact absurd (told.answer.symm.trans zero) (codeTold_ne_zero nofun)
  | ok context =>
    rcases yields_or_fails host own context world with
      ⟨result, programId, deployed⟩ | ⟨fault, failed, nonzero⟩
    · exact ⟨programId, printed_deployRewards host loaded deployed,
        fun other => readyProgramId_seeded other deployed.2.2⟩
    · have told : Does (command host situation .deployRewards world) _ _ _ :=
        does_command host (deployRewards_of_error host loaded failed nonzero)
      exact absurd (told.answer.symm.trans zero) (codeTold_ne_zero nonzero)

/-- The three steps one by one make the calls that one run makes, and end with the status that it
ends with. The rewards command never looks for an outcome that is not there, and the tests refuse no
id that it printed. -/
theorem stepwise_eq_run (own : host.RaisesNoStepFault) (now first second third : Moment)
    (world : σ) :
    let seen (moment : Moment) : Situation := ⟨disk, environment, moment, input⟩
    let run := command host (seen now) .run world
    let steps := stepwise host (seen first) (seen second) (seen third) world
    let deploy := command host (seen first) .deployRewards world
    Event.calls steps.events = Event.calls run.events ∧ steps.answer = run.answer ∧
      steps.state = run.state ∧
      (∀ context after, (seen first).context = .ok context →
        (runStep host (.usual host) context .rewards world).answer = .ok (0, after) →
        ∃ outcome programId, after.outcomes.get? Step.rewards.name = some outcome ∧
          outcome.programId = some programId) ∧
      (deploy.answer = .ok 0 → ∃ programId, Event.printed deploy.events = programId ++ "\n" ∧
        ∀ context, Stage.readyProgramId (seeded context programId) = .ok programId) := by
  intro seen run steps deploy
  obtain ⟨answer, calls, after, one, other⟩ :=
    does_stepwise host disk environment input own now first second third world
  exact ⟨other.calls.trans one.calls.symm, other.answer.trans one.answer.symm,
    other.state.trans one.state.symm, fun _ _ _ => outcome_of_zero host own,
    printed_of_zero host own⟩

end Steps

/-- Where the tests fail, both ways make three calls and end with the status of the last. -/
theorem stepwise_eq_run_ending :
    let host : Host Unit :=
      .ending (some "\x7bprogramId: a\x7d") (.exited 0) (.exited 0) (.exited 3)
    let seen (moment : Moment) : Situation := ⟨⟨[], []⟩, [], moment, []⟩
    let run := command host (seen default) .run ()
    let steps := stepwise host (seen default) (seen default) (seen default) ()
    Event.calls steps.events = Event.calls run.events ∧ steps.answer = run.answer := by
  intro host seen run steps
  have own : host.RaisesNoStepFault := Host.ending_raisesNoStepFault _ _ _ _
  have same := stepwise_eq_run host ⟨[], []⟩ [] [] own default default default default ()
  exact ⟨same.1, same.2.1⟩

end Cli

end Rollout
