import Rollout.Proofs.Cli.Commands
import Rollout.Proofs.Sequence.Calls

/-!
What the program shows of a plan.

A plan is shown and not carried out. Its lines are nevertheless those of the calls that a run makes
which is done, but for the program id, which nobody knows before the rewards program is deployed.
-/

set_option autoImplicit false
set_option relaxedAutoImplicit false

namespace Rollout.Cli

section PlanShown

variable {σ : Type}

private theorem printLines_apply (lines : List String) (world : σ) :
    (forIn lines PUnit.unit fun line _ => do
        Act.printLine line
        pure (.yield PUnit.unit) : Act σ PUnit) world =
      ⟨.ok PUnit.unit, lines.map fun line => .out (line ++ "\n"), world⟩ := by
  induction lines with
  | nil => rfl
  | cons line rest ih =>
    have first : (Act.printLine line >>= fun _ => pure (.yield PUnit.unit) :
        Act σ (ForInStep PUnit)) world =
          ⟨.ok (.yield PUnit.unit), [.out (line ++ "\n")], world⟩ := rfl
    rw [List.forIn_cons, Act.bind_apply, first]
    simp only [ih]
    rfl

theorem showPlan_apply {situation : Situation} {context : Context}
    (loaded : situation.context = .ok context) (world : σ) :
    showPlan situation world =
      ⟨.ok 0, (planLines context).map fun line => .out (line ++ "\n"), world⟩ := by
  simp only [showPlan, Act.bind_apply, Act.ofExcept_apply, loaded, printLines_apply,
    Act.pure_apply, List.nil_append, List.append_nil]

/-- The line about a step whose command is called with words in a directory. -/
def callLine (step : Step) (argv : List String) (directory : Path) : String :=
  s!"{step.name}: " ++ " ".intercalate argv ++ s!"  (cwd={directory})"

/-- The line about how long commands may take, if there is a bound. -/
def timeoutLine (timeout? : Option Number.Binary64) : List String :=
  (timeout?.map fun timeout => s!"timeout: {timeout.toText}s").toList

theorem planLines_eq (context : Context) :
    planLines context =
      (Step.all.map fun step =>
        let call := Stage.callWith context openProgramId step
        callLine step call.argv call.directory) ++ timeoutLine context.timeout := rfl

theorem planLines_congr {context other : Context} (settings : other.settings = context.settings)
    (plan : other.plan = context.plan) (workspace : other.workspace = context.workspace) :
    planLines other = planLines context := by
  simp only [planLines, stepLine, Context.timeout, settings, plan, workspace]

end PlanShown

/-- Where a run is done, the lines about its plan tell of each step the words and the directory of
the call that was made for it, in their order. The last word of the tests is the parameter with the
program id that was extracted; in their line that id is open. A timeout is told exactly if the calls
have one, and it is theirs. The program prints these lines, whenever it is asked for them with the
same settings, plan and workspace, and does nothing else. -/
theorem plan_shows_run {σ : Type} (host : Host σ) (desk : Desk σ) {report : Report}
    (answered : (Desk.runSequence host desk).answer = .ok report) (done : report.phase = .done) :
    let context := desk.context
    let parameter := context.plan.parameter
    let calls := Event.calls (Desk.runSequence host desk).events
    let lines := planLines context
    (∃ programId rewards registry tests words timeout?,
      report.programId = some programId ∧ calls = [rewards, registry, tests] ∧
      tests.argv = words ++ [parameter ++ "=" ++ programId] ∧
      (∀ call ∈ calls, call.timeout = timeout?) ∧
      lines =
        [callLine .rewards rewards.argv rewards.directory,
          callLine .registry registry.argv registry.directory,
          callLine .tests (words ++ [parameter ++ "=" ++ "<program-id>"]) tests.directory] ++
        timeoutLine timeout?) ∧
    ∀ {τ : Type} (other : Host τ) (situation : Situation) (arguments : List String)
        (seen : Context) (world : τ),
      read arguments = .ok .plan → situation.context = .ok seen →
      seen.settings = context.settings → seen.plan = context.plan →
      seen.workspace = context.workspace →
      obey other situation arguments world =
        ⟨.ok 0, lines.map fun line => .out (line ++ "\n"), world⟩ := by
  intro context parameter calls lines
  obtain ⟨programId, reported, made⟩ := calls_of_done host desk answered done
  have made : calls = Step.all.map (Stage.callWith context programId) := made
  constructor
  -- Calls and lines are rows over the steps alike, which differ in the program id only.
  · refine ⟨programId, Stage.rewardsCall context, Stage.registryCall context,
      Stage.testsCall context programId, context.plan.tests.argv, context.timeout, reported, made,
      rfl, fun call among => ?_, planLines_eq context⟩
    rw [made] at among
    obtain ⟨step, -, rfl⟩ := List.mem_map.mp among
    cases step <;> rfl
  · intro τ other situation arguments seen world reads loaded settings plan workspace
    have same : planLines seen = lines := planLines_congr settings plan workspace
    rw [obey_of_read other reads, ← same]
    exact command_of_ok other (showPlan_apply loaded world)

private theorem resolve_empty : (⟨[], []⟩ : Disk).resolve (.ofString ".") = .ok .top := by
  have bare : Path.ofString "." = .bare := by decide
  have loose : Path.bare.isAbsolute = false := by decide
  have parts : Path.bare.parts = [] := by decide
  have top : (⟨.absolute, []⟩ : Path) = .top := by decide
  have text : Path.top.toString = "/" := by decide
  have names : Disk.namesOf "/" = ["", ""] := by decide
  have below : Disk.fromTop "/" = true := by decide +kernel
  have short : ¬ Disk.pathLimit < "/".utf8ByteSize := by decide
  simp [Disk.resolve, bare, loose, parts, Disk.resolveFrom, Disk.straight, Disk.cancel, top,
    Disk.find, text, Disk.locate, names, below, Disk.walk, Disk.entryAt, short]
  rfl

private theorem hasEntry_empty :
    (⟨[], []⟩ : Disk).hasEntry (Path.top.child Settings.usualPlanFile) = .ok false := by
  have text : (Path.top.child Settings.usualPlanFile).toString = "/sequencer.yaml" := by decide
  have names : Disk.namesOf "/sequencer.yaml" = ["", "sequencer.yaml"] := by decide
  have below : Disk.fromTop "/sequencer.yaml" = true := by decide +kernel
  have short : ¬ Disk.pathLimit < "/sequencer.yaml".utf8ByteSize ∧
      ¬ Disk.nameLimit < "sequencer.yaml".utf8ByteSize := by decide
  simp [Disk.hasEntry, text, Disk.find, Disk.locate, names, below, Disk.walk, Disk.entryAt, short]
  rfl

private theorem timeout?_text :
    Plan.timeout? (.text "2.5") Settings.timeoutLabel = .ok (.ofDecimal false 25 (-1)) := by
  have read : (Plan.timeout? (.text "2.5") Settings.timeoutLabel).toOption =
      some (.ofDecimal false 25 (-1)) := by decide +kernel
  generalize Number.Binary64.ofDecimal false 25 (-1) = duration at read
  generalize Plan.timeout? (.text "2.5") Settings.timeoutLabel = answer at read
  cases answer with
  | error fault => cases read
  | ok value => exact congrArg Except.ok (Option.some.inj read)

private theorem load_timed :
    Settings.load ⟨[], []⟩ [("SEQUENCER_TIMEOUT", "2.5")] =
      .ok ⟨.top, none, some (.ofDecimal false 25 (-1)), "make", "INFO"⟩ := by
  have named : (Entries.get? "SEQUENCER_WORKSPACE" [("SEQUENCER_TIMEOUT", "2.5")]).getD "." =
    "." := by decide
  have workspace : ((⟨[], []⟩ : Disk).resolve (.ofString ".")).mapError Fault.unresolved =
      .ok .top := by
    rw [resolve_empty]
    rfl
  have planPath : Settings.planPath? ⟨[], []⟩ [("SEQUENCER_TIMEOUT", "2.5")] .top = .ok none := by
    have ungiven : Environment.given? [("SEQUENCER_TIMEOUT", "2.5")] "SEQUENCER_CONFIG" = none := by
      decide
    simp only [Settings.planPath?, ungiven, hasEntry_empty]
    rfl
  have timed : Environment.given? [("SEQUENCER_TIMEOUT", "2.5")] Settings.timeoutLabel =
    some "2.5" := by decide
  simp only [Settings.load, named, workspace, planPath, timed, timeout?_text, bind, Except.bind]
  rfl

/-- Where all three commands succeed, the words of the tests are shown with an open id, and the
timeout that the environment gives is shown too. -/
theorem plan_shows_run_timed :
    let situation : Situation := ⟨⟨[], []⟩, [("SEQUENCER_TIMEOUT", "2.5")], default, []⟩
    let timeout := Number.Binary64.ofDecimal false 25 (-1)
    let context : Context :=
      .start ⟨.top, none, some timeout, "make", "INFO"⟩ (.usual "make") default
    let host : Host Unit :=
      .ending (some "\x7bprogramId: a\x7d") (.exited 0) (.exited 0) (.exited 0)
    (∃ rewards registry tests,
      Event.calls (Desk.runSequence host ⟨context, ()⟩).events = [rewards, registry, tests] ∧
        tests.argv = ["make", "test-program-super", "TEST_REWARDS_PROGRAM_ID=a"] ∧
        tests.timeout = some timeout) ∧
      obey host situation ["plan"] () =
        ⟨.ok 0, [.out "deploy-rewards: make -s -C ../rewards deploy  (cwd=/)\n",
          .out "deploy-super: make -s deploy-super  (cwd=/)\n",
          .out ("test-program: make test-program-super " ++
            "TEST_REWARDS_PROGRAM_ID=<program-id>  (cwd=/)\n"),
          .out "timeout: 2.5s\n"], ()⟩ := by
  intro situation timeout context host
  have names : Token.Names "\x7bprogramId: a\x7d" "a" := ⟨by decide, by decide⟩
  have ends := ends_of_tested host ⟨context, ()⟩ ⟨⟨rfl, rfl, rfl⟩, names⟩ ⟨rfl, rfl, rfl⟩
    ⟨rfl, rfl, rfl⟩
  have loaded : situation.context = .ok context := by
    simp only [Situation.context, Context.load, situation, load_timed]
    rfl
  obtain ⟨⟨programId, rewards, registry, tests, words, timeout?, reported, made, -⟩, shown⟩ :=
    plan_shows_run host ⟨context, ()⟩ ends.answer rfl
  refine ⟨⟨rewards, registry, tests, made, ?_⟩, ?_⟩
  · have called := made.symm.trans ends.calls_eq
    cases called
    exact ⟨rfl, rfl⟩
  · have lines : planLines context = ["deploy-rewards: make -s -C ../rewards deploy  (cwd=/)",
        "deploy-super: make -s deploy-super  (cwd=/)",
        "test-program: make test-program-super TEST_REWARDS_PROGRAM_ID=<program-id>  (cwd=/)",
        "timeout: 2.5s"] := by decide +kernel
    rw [shown host situation ["plan"] context () rfl loaded rfl rfl rfl]
    simp only [lines]
    rfl

end Rollout.Cli
