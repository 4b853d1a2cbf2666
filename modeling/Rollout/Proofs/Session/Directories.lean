import Rollout.Proofs.Path
import Rollout.Proofs.Plan.Fields
import Rollout.Proofs.Session.Executions

/-!
The directories that the commands of a session run in.

A command runs in its directory seen from the workspace, and all commands of a session are seen from
one workspace. Seen from a workspace with a root, every directory has a root.
-/

set_option autoImplicit false
set_option relaxedAutoImplicit false

namespace Rollout

/-! ### Commands -/

namespace StepCommand

theorem isAbsolute_directory (command : StepCommand) (workspace : Path) :
    (command.directory workspace).isAbsolute =
      (workspace.isAbsolute || command.cwd.any Path.isAbsolute) := by
  unfold directory
  cases command.cwd with
  | none => exact (Bool.or_false _).symm
  | some cwd => exact Path.isAbsolute_join workspace cwd

theorem directory_of_text {command : StepCommand} {text : String}
    (given : command.cwd = some (.ofString text)) (workspace : Path) :
    let directory := command.directory workspace
    let components := ((text.toList.splitOn '/').filter fun piece => piece ≠ [] ∧ piece ≠ ['.']).map
      String.ofList
    (text.toList.head? = some '/' → directory = .ofString text) ∧
      (text.toList.head? ≠ some '/' →
        directory = ⟨workspace.root, workspace.parts ++ components⟩) := by
  intro directory components
  have seen : directory = workspace.join (.ofString text) := by
    simp only [directory, StepCommand.directory, given]
  rw [seen]
  constructor
  · intro slash
    exact Path.join_of_isAbsolute workspace ((Path.isAbsolute_ofString text).mpr slash)
  · intro bare
    have rootless : (Path.ofString text).isAbsolute = false := by
      rw [← Bool.not_eq_true, Path.isAbsolute_ofString]
      exact bare
    rw [Path.join_of_relative workspace rootless]
    refine congrArg (fun parts => Path.mk workspace.root (workspace.parts ++ parts)) ?_
    rw [Path.ofString, Path.components, Path.pieces_eq_splitOn]
    refine congrArg (List.map String.ofList) (List.filter_congr fun piece _ => ?_)
    rw [Bool.eq_iff_iff, Path.isComponent_iff, decide_eq_true_iff]

theorem isNormal_directory {command : StepCommand} {workspace : Path} (normal : workspace.IsNormal)
    (given : ∀ cwd, command.cwd = some cwd → cwd.IsNormal) :
    (command.directory workspace).IsNormal := by
  unfold directory
  cases held : command.cwd with
  | none => exact normal
  | some cwd => exact normal.join (given cwd held)

end StepCommand

namespace Plan

theorem cwd_of_accepted {make : String} {payload : Value} {plan : Plan}
    (distinct : Value.Distinct (stepsOf payload)) (accepted : ofPayload make payload = .ok plan)
    (step : Step) : (plan.command step).cwd =
      (given? (settingsOf payload step) "cwd").map fun raw => .ofString raw.shown := by
  rw [((isMade_of_payload distinct accepted).command step).cwd]
  cases given? (settingsOf payload step) "cwd" <;> rfl

end Plan

/-! ### Stages -/

namespace Stage

variable {σ : Type}

/-- A stage whose commands run in directories of the plan, seen from the workspace. -/
def IsInPlace (stage : Stage σ) : Prop :=
  ∀ context world, ∀ call ∈ Event.calls (stage.action context world).events,
    ∃ step, call.directory = (context.plan.command step).directory context.workspace

theorem isInPlace_ofStep (host : Host σ) (step : Step) : (ofStep host step).IsInPlace := by
  intro context world call mem
  obtain ⟨programId, rfl⟩ := exists_callWith_of_mem_calls host mem
  exact ⟨step, by cases step <;> rfl⟩

end Stage

/-! ### Workspaces -/

private theorem Disk.isAbsolute_straight (disk : Disk) (path : Path) :
    (disk.straight path).isAbsolute = true := by
  unfold straight
  split
  · assumption
  · rfl

theorem Disk.isAbsolute_of_resolve {disk : Disk} {path resolved : Path}
    (found : disk.resolve path = .ok resolved) : resolved.isAbsolute = true := by
  simp only [resolve] at found
  split at found
  · simp only [pure_bind] at found
    split at found <;> cases found
    exact disk.isAbsolute_straight _
  · simp only [pure_bind] at found
    split at found <;> cases found
    exact disk.isAbsolute_straight _
  · cases found

theorem Settings.isAbsolute_workspace_of_load {disk : Disk} {environment : Environment}
    {settings : Settings} (loaded : load disk environment = .ok settings) :
    settings.workspace.isAbsolute = true := by
  obtain ⟨workspace, resolved, loaded⟩ := exists_ok_of_bind loaded
  obtain ⟨planPath, -, loaded⟩ := exists_ok_of_bind loaded
  have same : settings.workspace = workspace := by
    dsimp only at loaded
    split at loaded
    · obtain ⟨timeout, -, loaded⟩ := exists_ok_of_bind loaded
      cases loaded
      rfl
    · cases loaded
      rfl
  rw [same]
  cases answer : disk.resolve (Path.ofString ((environment.get? "SEQUENCER_WORKSPACE").getD ".")) with
  | error fault =>
    rw [answer] at resolved
    cases resolved
  | ok path =>
    rw [answer] at resolved
    cases resolved
    exact Disk.isAbsolute_of_resolve answer

theorem Context.isAbsolute_workspace_of_load {disk : Disk} {environment : Environment} {now : Moment}
    {context : Context} (loaded : load disk environment now = .ok context) :
    context.workspace.isAbsolute = true := by
  obtain ⟨settings, given, loaded⟩ := exists_ok_of_bind loaded
  obtain ⟨plan, -, loaded⟩ := exists_ok_of_bind loaded
  cases loaded
  exact Settings.isAbsolute_workspace_of_load given

/-! ### Sessions -/

namespace Session

variable {σ : Type} {host : Host σ}

theorem directory_of_mem_calls {catalogue : Catalogue σ} (placed : catalogue.Every Stage.IsInPlace)
    {desk : Desk σ} {operations : List (Operation σ)}
    (registers : ∀ name stage, .register name stage ∈ operations → stage.IsInPlace) {call : Call}
    (mem : call ∈ Event.calls (events host operations (opened catalogue desk))) :
    ∃ command : StepCommand, call.directory = command.directory desk.context.workspace := by
  rw [calls_events, Event.mem_calls_iff, List.mem_flatMap] at mem
  obtain ⟨execution, executed, mem⟩ := mem
  obtain ⟨placed, home⟩ :=
    stage_of_mem_executions (Stage.isInPlace_ofStep host) placed registers executed
  rw [← Event.mem_calls_iff, Execution.calls_events] at mem
  obtain ⟨step, directory⟩ := placed _ _ call mem
  refine ⟨execution.desk.context.plan.command step, ?_⟩
  rw [directory, home]
  rfl

/-- A command without a directory runs in the workspace. One that is given a text runs in the path of
the text alone if it starts with a slash, and else in the one of the components of the text after
those of the workspace; a component is a piece between slashes that is neither empty nor a dot. The
directory is normal if the workspace is, and it has a root exactly if the workspace or the text has
one. So where the workspace has a root, as it has in every context that is loaded, every command of
a session runs in a directory that has one. -/
theorem directories_of_commands :
    (∀ (command : StepCommand) (workspace : Path), command.cwd = none →
      command.directory workspace = workspace) ∧
    (∀ (command : StepCommand) (workspace : Path) (text : String),
      command.cwd = some (.ofString text) →
      let directory := command.directory workspace
      let components := ((text.toList.splitOn '/').filter fun piece =>
        piece ≠ [] ∧ piece ≠ ['.']).map String.ofList
      (text.toList.head? = some '/' → directory = .ofString text) ∧
      (text.toList.head? ≠ some '/' →
        directory = ⟨workspace.root, workspace.parts ++ components⟩) ∧
      (text.toList.head? ≠ some '/' → components = [] → directory = workspace) ∧
      (workspace.IsNormal → directory.IsNormal) ∧
      (directory.isAbsolute = true ↔ workspace.isAbsolute = true ∨ text.toList.head? = some '/')) ∧
    (∀ text, (Path.ofString text).IsNormal) ∧
    (∀ make payload plan, Value.Distinct (Plan.stepsOf payload) →
      Plan.ofPayload make payload = .ok plan → ∀ step, (plan.command step).cwd =
        (Plan.given? (Plan.settingsOf payload step) "cwd").map fun raw => .ofString raw.shown) ∧
    (∀ disk environment now context, Context.load disk environment now = .ok context →
      context.workspace.isAbsolute = true) ∧
    ∀ {σ : Type} (host : Host σ), (Catalogue.usual host).Every Stage.IsInPlace ∧
      ∀ (catalogue : Catalogue σ) (desk : Desk σ) (operations : List (Operation σ)),
        catalogue.Every Stage.IsInPlace →
        (∀ name stage, .register name stage ∈ operations → stage.IsInPlace) →
        desk.context.workspace.isAbsolute = true →
        ∀ call ∈ Event.calls (events host operations (opened catalogue desk)),
          call.directory.isAbsolute = true := by
  refine ⟨fun command workspace none => ?_, fun command workspace text given => ?_,
    Path.isNormal_ofString, fun make payload plan => Plan.cwd_of_accepted,
    fun disk environment now context => Context.isAbsolute_workspace_of_load,
    fun host => ⟨?_, ?_⟩⟩
  · rw [StepCommand.directory, none]
  · intro directory components
    obtain ⟨alone, after⟩ := StepCommand.directory_of_text given workspace
    refine ⟨alone, after, fun bare empty => ?_, fun normal => ?_, ?_⟩
    · have seen : directory = ⟨workspace.root, workspace.parts ++ components⟩ := after bare
      rw [seen, empty, List.append_nil]
    · refine StepCommand.isNormal_directory normal fun cwd held => ?_
      cases given.symm.trans held
      exact Path.isNormal_ofString text
    · rw [StepCommand.isAbsolute_directory, given, Option.any_some, Bool.or_eq_true,
        Path.isAbsolute_ofString]
  · exact Catalogue.every_usual (Stage.isInPlace_ofStep host)
  · intro catalogue desk operations placed registers rooted call mem
    obtain ⟨command, directory⟩ := directory_of_mem_calls placed registers mem
    rw [directory, StepCommand.isAbsolute_directory, rooted, Bool.true_or]

example : StepCommand.directory ⟨"", [], some (.ofString "..//./b/"), ""⟩ (.ofString "//srv/") =
    ⟨.doubled, ["srv", "..", "b"]⟩ := by
  decide +kernel

end Session

end Rollout
