import Rollout.Proofs.Cli.Commands

/-!
The exit status of a rollout.

A run is done exactly if its three commands exited with zero and the first of them named a program.
Else the first step that fails decides the exit code alone, and that is never zero. The command line
ends with the same code, and complains exactly if it is not zero.
-/

set_option autoImplicit false
set_option relaxedAutoImplicit false

namespace Rollout

/-- The exit code of the rewards step because of what its command told, if that names no program. -/
def extractionFailure? (text : Option String) : Option Int :=
  match Token.extract (text.getD "") with
  | .ok _ => none
  | .error _ => some 1

/-- The exit code of the first step that fails, if one does, by the text that the rewards command
told and by how the three commands end. -/
def firstFailure? (text : Option String) (rewards registry tests : Ending) : Option Int :=
  rewards.failure?.or (extractionFailure? text) |>.or registry.failure? |>.or tests.failure?

/-- The commands of a run end in the given ways, each of them a possible one, and the rewards
command tells a text. The tests are called with a program id only if the text names it. -/
structure CommandsEnd {σ : Type} (host : Host σ) (desk : Desk σ) (text : Option String)
    (rewards registry tests : Ending) : Prop where
  possible : rewards.IsPossible ∧ registry.IsPossible ∧ tests.IsPossible
  rewards :
    let call := Stage.rewardsCall desk.context
    host.reply call desk.world = .ok (.ofEnding call.argv rewards text)
  registry :
    let call := Stage.registryCall desk.context
    ∃ output, host.reply call (host.settle (Stage.rewardsCall desk.context) desk.world) =
      .ok (.ofEnding call.argv registry output)
  tests : ∀ programId, Token.Names (text.getD "") programId →
    let call := Stage.testsCall desk.context programId
    ∃ output, host.reply call (host.settle (Stage.registryCall desk.context)
        (host.settle (Stage.rewardsCall desk.context) desk.world)) =
      .ok (.ofEnding call.argv tests output)

theorem extractionFailure?_eq_none_iff {text : Option String} :
    extractionFailure? text = none ↔ ∃ programId, Token.Names (text.getD "") programId := by
  unfold extractionFailure?
  cases extracted : Token.extract (text.getD "") with
  | ok programId => simpa using ⟨programId, Token.extract_eq_ok_iff.mp extracted⟩
  | error fault =>
    simp only [reduceCtorEq, false_iff]
    rintro ⟨programId, names⟩
    rw [Token.extract_eq_ok_iff.mpr names] at extracted
    cases extracted

theorem firstFailure?_eq_none_iff {text : Option String} {rewards registry tests : Ending} :
    firstFailure? text rewards registry tests = none ↔
      rewards = .exited 0 ∧ registry = .exited 0 ∧ tests = .exited 0 ∧
        ∃ programId, Token.Names (text.getD "") programId := by
  simp only [firstFailure?, Option.or_eq_none_iff, Ending.failure?_eq_none_iff,
    extractionFailure?_eq_none_iff]
  constructor
  · rintro ⟨⟨⟨first, named⟩, second⟩, third⟩
    exact ⟨first, second, third, named⟩
  · rintro ⟨first, second, third, named⟩
    exact ⟨⟨⟨first, named⟩, second⟩, third⟩

theorem firstFailure?_bounds {text : Option String} {rewards registry tests : Ending}
    (possible : rewards.IsPossible ∧ registry.IsPossible ∧ tests.IsPossible) {code : Int}
    (failed : firstFailure? text rewards registry tests = some code) : 1 ≤ code ∧ code ≤ 255 := by
  obtain ⟨first, second, third⟩ := possible
  simp only [firstFailure?, Option.or_eq_some_iff] at failed
  rcases failed with ((failed | ⟨-, failed⟩) | ⟨-, failed⟩) | ⟨-, failed⟩
  · exact Ending.failure?_bounds first failed
  · unfold extractionFailure? at failed
    split at failed
    · cases failed
    · cases failed
      decide
  · exact Ending.failure?_bounds second failed
  · exact Ending.failure?_bounds third failed

section Runs

variable {σ : Type} (host : Host σ) {desk : Desk σ} {step : Step} {call : Call} {ending : Ending}
  {argv : List String} {output : Option String}

private theorem verdict_of_failure (possible : ending.IsPossible)
    (replied : host.reply call desk.world = .ok (.ofEnding argv ending output)) {code : Int}
    (failed : ending.failure? = some code) :
    ∃ fault, desk.verdict host step call = .error (.step fault) ∧ fault.exitCode = code := by
  have notOk : (Result.ofEnding argv ending output).ok = false := by
    rw [← Bool.not_eq_true, Result.ok_ofEnding possible, failed]
    exact nofun
  refine ⟨.command (Stage.kindOf step) (desk.context.plan.command step).name
    (.ofEnding argv ending output), ?_, Result.exitCode_ofEnding failed argv output⟩
  simp only [Desk.verdict, replied, Except.bind, Stage.judge, notOk, Bool.false_eq_true, if_false]

private theorem verdict_of_success (possible : ending.IsPossible)
    (replied : host.reply call desk.world = .ok (.ofEnding argv ending output))
    (clean : ending.failure? = none) {fault : Fault}
    (failed : desk.verdict host step call = .error fault) :
    Stage.handedOn desk.context (.ofEnding argv ending output) step = .error fault := by
  have success := (Result.ok_ofEnding possible argv output).mpr clean
  simp only [Desk.verdict, replied, Except.bind, Stage.judge, success, if_true] at failed
  cases handed : Stage.handedOn desk.context (.ofEnding argv ending output) step with
  | error raised =>
    rw [handed] at failed
    cases failed
    rfl
  | ok programId =>
    rw [handed] at failed
    cases failed

private theorem failure_of_succeeds (possible : ending.IsPossible) {reply : Except Fault Result}
    (replied : reply = .ok (.ofEnding argv ending output)) {result : Result}
    (succeeded : Succeeds reply result) : ending.failure? = none := by
  obtain ⟨same, success⟩ := succeeded
  cases Except.ok.inj (same.symm.trans replied)
  exact (Result.ok_ofEnding possible argv output).mp (Result.ok_iff.mpr success)

/-- The exit code of a step by how its command ended and by what that told, if the step failed. -/
private def stepFailure? (step : Step) (ending : Ending) (output : Option String) : Option Int :=
  match step with
  | .rewards => ending.failure?.or (extractionFailure? output)
  | .registry | .tests => ending.failure?

private theorem failure_of_verdict (possible : ending.IsPossible)
    (replied : host.reply call desk.world = .ok (.ofEnding argv ending output)) {fault : Fault}
    (failed : desk.verdict host step call = .error fault) :
    ∃ raised, fault = .step raised ∧ stepFailure? step ending output = some raised.exitCode := by
  cases failure : ending.failure? with
  | some code =>
    obtain ⟨raised, verdict, exit⟩ := verdict_of_failure host possible replied failure
    refine ⟨raised, Except.error.inj (failed.symm.trans verdict), ?_⟩
    cases step <;> simp [stepFailure?, failure, exit]
  | none =>
    have handed := verdict_of_success host possible replied failure failed
    cases step with
    | registry => cases handed
    | tests => cases handed
    | rewards =>
      have told : (Result.ofEnding argv ending output).output = output := rfl
      simp only [Stage.handedOn, told] at handed
      cases extracted : Token.extract (output.getD "") with
      | ok programId =>
        rw [extracted] at handed
        cases handed
      | error reason =>
        rw [extracted] at handed
        cases handed
        exact ⟨_, rfl, by simp [stepFailure?, failure, extractionFailure?, extracted,
          StepFault.exitCode]⟩

private theorem ends_of_commandsEnd {text : Option String} {rewards registry tests : Ending}
    (ended : CommandsEnd host desk text rewards registry tests) :
    ∃ (fault? : Option StepFault) (steps : List Step) (calls : List Call) (after : Desk σ),
      Ends (Bench.run host (.usual host) ⟨.fresh, desk⟩) steps calls (fault?.map .step) after ∧
        fault?.map (·.exitCode) = firstFailure? text rewards registry tests := by
  obtain ⟨⟨possible₁, possible₂, possible₃⟩, replied₁, ⟨output₂, replied₂⟩, replied₃⟩ := ended
  -- A rewards command that named a program is no failure, and the program is the one of the text.
  have named : ∀ {first programId}, Yields (host.reply (Stage.rewardsCall desk.context) desk.world)
      first programId → rewards.failure? = none ∧ Token.Names (text.getD "") programId := by
    intro first programId deployed
    have same : first = _ := Except.ok.inj (deployed.1.1.symm.trans replied₁)
    refine ⟨failure_of_succeeds possible₁ replied₁ deployed.1, ?_⟩
    have names := deployed.2
    rw [same] at names
    exact names
  have told : ∀ {programId}, Token.Names (text.getD "") programId →
      extractionFailure? text = none := by
    intro programId names
    exact extractionFailure?_eq_none_iff.mpr ⟨programId, names⟩
  cases course_run host desk with
  | rewards fault failed ends =>
    obtain ⟨raised, rfl, exit⟩ := failure_of_verdict host possible₁ replied₁ failed
    have exit : rewards.failure?.or (extractionFailure? text) = _ := exit
    exact ⟨some raised, _, _, _, ends, by simp [firstFailure?, exit]⟩
  | registry first programId deployed fault failed ends =>
    obtain ⟨clean, names⟩ := named deployed
    obtain ⟨raised, rfl, exit⟩ := failure_of_verdict host possible₂ replied₂ failed
    have exit : registry.failure? = _ := exit
    refine ⟨some raised, _, _, _, ends, ?_⟩
    simp [firstFailure?, clean, told names, exit]
  | tests first second programId deployed registered fault failed ends =>
    obtain ⟨clean, names⟩ := named deployed
    obtain ⟨output₃, replied₃⟩ := replied₃ programId names
    have clean₂ := failure_of_succeeds possible₂ replied₂ registered
    obtain ⟨raised, rfl, exit⟩ := failure_of_verdict host possible₃ replied₃ failed
    have exit : tests.failure? = _ := exit
    refine ⟨some raised, _, _, _, ends, ?_⟩
    simp [firstFailure?, clean, told names, clean₂, exit]
  | done first second third programId deployed registered tested ends =>
    obtain ⟨clean, names⟩ := named deployed
    obtain ⟨output₃, replied₃⟩ := replied₃ programId names
    have clean₂ := failure_of_succeeds possible₂ replied₂ registered
    have clean₃ := failure_of_succeeds possible₃ replied₃ tested
    refine ⟨none, _, _, _, ends, ?_⟩
    simp [firstFailure?, clean, told names, clean₂, clean₃]

private theorem rollOut_of_ok {report : Report}
    (answer : (Desk.runSequence host desk).answer = .ok report) {usual : Except Fault Context}
    {given : Option Context} (chosen : given.elim usual .ok = .ok desk.context) :
    (host.rollOut usual given desk.world).answer = .ok report.exitCode := by
  have loaded : ((Act.ofExcept (given.elim usual .ok) : Act σ Context) desk.world).answer =
      .ok desk.context := chosen
  have coded : ((do return (← Desk.runSequence host).exitCode : Act (Desk σ) Int) desk).answer =
      .ok report.exitCode := congrArg Ran.answer (Act.bind_of_ok answer)
  unfold Host.rollOut
  rw [Act.bind_of_ok loaded]
  exact coded

private def reportOf (context : Context) : Option StepFault → Report
  | none => ⟨.done, 0, context.programId, none⟩
  | some fault => ⟨.failed, fault.exitCode, context.programId, some fault⟩

private theorem obey_run_leaves {fault? : Option StepFault} {steps : List Step} {calls : List Call}
    {after : Desk σ}
    (ends : Ends (Bench.run host (.usual host) ⟨.fresh, desk⟩) steps calls (fault?.map .step) after)
    {situation : Cli.Situation} (loaded : situation.context = .ok desk.context)
    {arguments : List String} (parsed : Cli.read arguments = .ok .run) :
    Leaves (Cli.obey host situation arguments desk.world)
      (.ok (reportOf after.context fault?).exitCode)
      (calls.map .call ++
        (fault?.map fun fault => Event.err (s!"Error: {fault.message}" ++ "\n")).toList)
      after.world := by
  have ran := Cli.command_leaves host (Cli.runAll_leaves host loaded ends)
  rw [Cli.obey_of_read host parsed]
  cases fault? <;>
    simpa [Cli.codeOf, Cli.codeTold, Cli.runFaultTold, Cli.planFaultTold, reportOf] using ran

/-- A run is done, with the code zero, exactly if every command exited with zero and a program was
named. Else it failed, and the first step that failed decides its code, which is from 1 to 255. To
roll out and to run from the command line end with the same code, and the command line complains,
of the fault in the report, exactly if that is not zero. -/
theorem exit_code_of_run {text : Option String} {rewards registry tests : Ending}
    (ended : CommandsEnd host desk text rewards registry tests) :
    ∃ report, (Desk.runSequence host desk).answer = .ok report ∧
      (report.phase = .done ∧ report.exitCode = 0 ↔
        rewards = .exited 0 ∧ registry = .exited 0 ∧ tests = .exited 0 ∧
          ∃ programId, Token.Names (text.getD "") programId) ∧
      (¬ (report.phase = .done ∧ report.exitCode = 0) →
        report.phase = .failed ∧
          firstFailure? text rewards registry tests = some report.exitCode ∧
          1 ≤ report.exitCode ∧ report.exitCode ≤ 255) ∧
      (∀ usual, (host.rollOut usual (some desk.context) desk.world).answer = .ok report.exitCode) ∧
      (host.rollOut (.ok desk.context) none desk.world).answer = .ok report.exitCode ∧
      ∀ (situation : Cli.Situation) (arguments : List String),
        situation.context = .ok desk.context → Cli.read arguments = .ok .run →
        let ran := Cli.obey host situation arguments desk.world
        ran.answer = .ok report.exitCode ∧
          (report.exitCode = 0 → Event.complaints ran.events = []) ∧
          (report.exitCode ≠ 0 → ∃ fault, report.fault = some fault ∧
            Event.complaints ran.events = [s!"Error: {fault.message}\n"]) := by
  obtain ⟨fault?, steps, calls, after, ends, exit⟩ := ends_of_commandsEnd host ended
  have answer : (Desk.runSequence host desk).answer = .ok (reportOf after.context fault?) := by
    refine ends.answer.trans ?_
    cases fault? <;> rfl
  refine ⟨reportOf after.context fault?, answer, ?_, ?_, fun usual => rollOut_of_ok host answer rfl,
    rollOut_of_ok host answer rfl, ?_⟩
  · rw [← firstFailure?_eq_none_iff, ← exit]
    cases fault? <;> simp [reportOf]
  · intro undone
    cases fault? with
    | none => exact absurd ⟨rfl, rfl⟩ undone
    | some fault => exact ⟨rfl, exit.symm, firstFailure?_bounds ended.possible exit.symm⟩
  · intro situation arguments loaded parsed ran
    have leaves := obey_run_leaves host ends loaded parsed
    have complaints : Event.complaints ran.events = _ :=
      (Event.complaints_deeds _).symm.trans (congrArg Event.complaints leaves.deeds)
    rw [Event.complaints_append, Event.complaints_map_call, List.nil_append] at complaints
    refine ⟨leaves.answer, fun zero => ?_, fun nonzero => ?_⟩
    · cases fault? with
      | none => exact complaints
      | some fault =>
        have bounds : 1 ≤ fault.exitCode ∧ _ := firstFailure?_bounds ended.possible exit.symm
        have zero : fault.exitCode = 0 := zero
        omega
    · cases fault? with
      | none => exact absurd rfl nonzero
      | some fault => exact ⟨fault, rfl, complaints⟩

end Runs

theorem commandsEnd_ending {rewards registry tests : Ending}
    (possible : rewards.IsPossible ∧ registry.IsPossible ∧ tests.IsPossible)
    (text : Option String) (context : Context) :
    CommandsEnd (.ending text rewards registry tests) ⟨context, ()⟩ text rewards registry tests :=
  ⟨possible, rfl, ⟨none, rfl⟩, fun _ _ => ⟨none, rfl⟩⟩

/-- A registry command that a signal kills ends the run with one. -/
theorem exit_code_of_run_killed :
    let context : Context := .start ⟨.top, none, none, "make", "INFO"⟩ (.usual "make") default
    let host : Host Unit := .ending (some "\x7bprogramId: a\x7d") (.exited 0) (.killed 9) .expired
    (host.rollOut (.ok context) none ()).answer = .ok 1 := by
  intro context host
  have ended : CommandsEnd host ⟨context, ()⟩ _ (.exited 0) (.killed 9) .expired :=
    commandsEnd_ending (by decide) _ context
  obtain ⟨report, -, done, failed, -, answer, -⟩ := exit_code_of_run host ended
  have undone : ¬ (report.phase = .done ∧ report.exitCode = 0) := fun finished =>
    nomatch (done.mp finished).2.1
  have killed : firstFailure? (some "\x7bprogramId: a\x7d") (.exited 0) (.killed 9) .expired =
      some 1 := by decide +kernel
  have code : report.exitCode = 1 := Option.some.inj ((failed undone).2.1.symm.trans killed)
  exact code ▸ answer

end Rollout
