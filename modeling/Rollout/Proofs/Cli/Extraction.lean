import Rollout.Proofs.Cli.Commands
import Rollout.Proofs.Machine.Launch
import Rollout.Proofs.Text.Utf8

/-!
The ways to take a program id from a text.

The text comes from a file, from standard input or from the deploy command of the rewards program.
The first two are decoded strictly, and the last is decoded in any case. Where the bytes are text,
all of them read the same, and they find the same id in it or fail for the same reason.
-/

set_option autoImplicit false
set_option relaxedAutoImplicit false

namespace Rollout

theorem Machine.textOf_encode (text : List Char) :
    textOf (Text.Utf8.encode text) = String.ofList (Text.unifyLineEnds text) := by
  rw [textOf, Text.Utf8.decodeLossy_encode]

theorem Stage.eq_extraction_of_programIdIn {step : String} {output : Option String}
    {fault : StepFault} (failed : programIdIn step output = .error fault) :
    ∃ reason, fault = .extraction step (.token reason) 1 := by
  unfold programIdIn at failed
  split at failed
  · rename_i reason _
    cases failed
    exact ⟨reason, rfl⟩
  · cases failed

theorem Desk.runStage_rewards_of_succeeds {σ : Type} (host : Host σ) {desk : Desk σ}
    {result : Result}
    (success : Succeeds (host.reply (Stage.rewardsCall desk.context) desk.world) result) :
    let ran := runStage host (.usual host) Step.rewards.name desk
    let named := Stage.programIdIn desk.context.plan.rewards.name result.output
    let outcome (programId : String) : Outcome :=
      ⟨desk.context.plan.rewards.name, some result, some programId⟩
    (∀ programId, named = .ok programId → ran.answer = .ok (some (outcome programId)) ∧
      ran.state.context = desk.context.record Step.rewards.name (outcome programId)) ∧
    (∀ fault, named = .error fault → ran.answer = .error (.step fault) ∧
      ran.state.context = desk.context) := by
  intro ran named outcome
  have made : Stage.callFor desk.context .rewards = .ok (Stage.rewardsCall desk.context) := rfl
  have verdict : desk.verdict host .rewards (Stage.rewardsCall desk.context) =
      (named.map outcome).mapError .step := verdict_rewards_of_succeeds host success
  refine ⟨fun programId found => ?_, fun fault found => ?_⟩
  · rw [found] at verdict
    obtain ⟨answer, -, state⟩ := runStage_usual_of_ok host made verdict
    exact ⟨answer, congrArg Desk.context state⟩
  · rw [found] at verdict
    obtain ⟨answer, -, state⟩ := runStage_usual_of_error host made verdict
    have unchanged := congrArg Desk.context state
    exact ⟨answer, unchanged⟩

namespace Cli

section Extraction

variable {σ : Type} {situation : Situation} {text : List Char}

theorem Situation.textOf_encode (text : List Char) :
    textOf (Text.Utf8.encode text) = .ok (Text.unifyLineEnds text) := by
  rw [textOf, Text.Utf8.decode_encode]
  rfl

theorem Situation.inputText_of_encoded (held : situation.input = Text.Utf8.encode text) :
    situation.inputText = .ok (String.ofList (Text.unifyLineEnds text)) := by
  rw [inputText, held, textOf_encode]
  rfl

theorem Situation.fileText_of_encoded {name : String} (plain : name.contains '\x00' = false)
    (held : situation.disk.read (.ofString name) = .ok (Text.Utf8.encode text)) :
    situation.fileText name = .ok (String.ofList (Text.unifyLineEnds text)) := by
  simp only [fileText, plain, Bool.false_eq_true, if_false, held]
  change (do return String.ofList (← (textOf (Text.Utf8.encode text)).mapError .undecodable) :
    Except Fault String) = _
  rw [textOf_encode]
  rfl

/-- What showing a program id leaves: the id is printed, or a complaint says why there is none. -/
def shown : Except StepFault String → σ → Ran σ Int
  | .ok programId, world => ⟨.ok 0, [.out (programId ++ "\n")], world⟩
  | .error fault, world => ⟨.ok fault.exitCode, [.err (s!"Error: {fault.message}" ++ "\n")], world⟩

theorem extractFrom_apply (text : String) (world : σ) :
    extractFrom text world = shown (Stage.programIdIn Step.rewards.name text) world := by
  unfold extractFrom
  cases Stage.programIdIn Step.rewards.name text <;> rfl

theorem command_of_shown (host : Host σ) {parsed : Command} {named : Except StepFault String}
    {world : σ} (ran : perform host situation parsed world = shown named world) :
    command host situation parsed world = shown named world := by
  cases named <;> exact command_of_ok host ran

end Extraction

/-- From the bytes of a text, the program shows the same for a file that holds them and for standard
input, and the rewards stage makes the same of them where its command succeeds and prints them: it
records the id that is shown, or it fails with the fault whose message and exit code are shown. -/
theorem extractions_agree (text : List Char) :
    let bytes := Text.Utf8.encode text
    let read := String.ofList (Text.unifyLineEnds text)
    let named := Stage.programIdIn Step.rewards.name read
    (∀ {σ : Type} (host : Host σ) (situation : Situation) (arguments : List String) (world : σ),
      situation.input = bytes → Cli.read arguments = .ok (.extract none) →
      obey host situation arguments world = shown named world) ∧
    (∀ {σ : Type} (host : Host σ) (situation : Situation) (arguments : List String) (name : String)
        (world : σ),
      name.contains '\x00' = false → situation.disk.read (.ofString name) = .ok bytes →
      Cli.read arguments = .ok (.extract (some name)) →
      obey host situation arguments world = shown named world) ∧
    (∀ call world, Machine.Prints call world bytes → ∃ ending,
      (Machine.launch call world).answer =
        .ok (.ofEnding call.argv ending (some (Machine.textOf bytes)))) ∧
    ∀ {σ : Type} (host : Host σ) (desk : Desk σ) (result : Result),
      desk.context.plan.rewards.name = Step.rewards.name →
      Succeeds (host.reply (Stage.rewardsCall desk.context) desk.world) result →
      result.output = some (Machine.textOf bytes) →
      let ran := Desk.runStage host (.usual host) Step.rewards.name desk
      let outcome (programId : String) : Outcome := ⟨Step.rewards.name, some result, some programId⟩
      (∀ programId, named = .ok programId → ran.answer = .ok (some (outcome programId)) ∧
        ran.state.context = desk.context.record Step.rewards.name (outcome programId)) ∧
      (∀ fault, named = .error fault → ran.answer = .error (.step fault) ∧
        ran.state.context = desk.context ∧
        ∃ reason, fault = .extraction Step.rewards.name (.token reason) 1) := by
  intro bytes read named
  refine ⟨fun host situation arguments world held reads => ?_,
    fun host situation arguments name world plain held reads => ?_,
    fun call world => Machine.launch_of_prints,
    fun {σ} host desk result kept success output => ?_⟩
  · rw [obey_of_read host reads]
    refine command_of_shown host ?_
    simp only [perform, extract, Act.bind_apply, Act.ofExcept_apply,
      Situation.inputText_of_encoded held, List.nil_append]
    exact extractFrom_apply read world
  · rw [obey_of_read host reads]
    refine command_of_shown host ?_
    simp only [perform, extract, Situation.fileText_of_encoded plain held]
    exact extractFrom_apply read world
  · have staged := Desk.runStage_rewards_of_succeeds host success
    -- No byte of a text is replaced, so the stage looks at what the strict readings give.
    rw [kept, output, Machine.textOf_encode] at staged
    obtain ⟨recorded, refused⟩ := staged
    refine ⟨recorded, fun fault found => ?_⟩
    obtain ⟨answer, unchanged⟩ := refused fault found
    exact ⟨answer, unchanged, Stage.eq_extraction_of_programIdIn found⟩

/-- A text with a mark in front and with three kinds of line ends, one of them inside its id, is
read alike from standard input, from a file and from a deploy command. -/
theorem extractions_agree_marked :
    let text := "\uFEFFdone\r\n\x7bprogramId: a\rb\x7d\n".toList
    let bytes := Text.Utf8.encode text
    let disk : Disk := ⟨[(["out"], .file bytes 0o644)], []⟩
    let situation : Situation := ⟨disk, [], default, bytes⟩
    let host : Host Unit :=
      ⟨fun call world => ⟨.ok ⟨call.argv, 0, some (Machine.textOf bytes), false⟩, [], world⟩,
        fun world => (.zero false, world)⟩
    let context : Context := .start ⟨.top, none, none, "make", "INFO"⟩ (.usual "make") default
    let ran := Desk.runStage host (.usual host) Step.rewards.name ⟨context, ()⟩
    obey host situation ["extract"] () = ⟨.ok 0, [.out "a\nb\n"], ()⟩ ∧
      obey host situation ["extract", "out"] () = ⟨.ok 0, [.out "a\nb\n"], ()⟩ ∧
      ran.state.context.programId = some "a\nb" := by
  intro text bytes disk situation host context ran
  obtain ⟨fromInput, fromFile, -, fromCommand⟩ := extractions_agree text
  have unified : String.ofList (Text.unifyLineEnds text) =
      "\uFEFFdone\n\x7bprogramId: a\nb\x7d\n" := by decide
  have names : Token.Names "\uFEFFdone\n\x7bprogramId: a\nb\x7d\n" "a\nb" := ⟨by decide, by decide⟩
  have named : Stage.programIdIn Step.rewards.name (String.ofList (Text.unifyLineEnds text)) =
      .ok "a\nb" := by
    rw [unified, Stage.programIdIn, Option.getD_some, Token.extract_eq_ok_iff.mpr names]
  have held : disk.read (.ofString "out") = .ok bytes := by
    have path : (Path.ofString "out").toString = "out" := by decide
    have places : Disk.namesOf "out" = ["out"] := by decide
    have below : Disk.fromTop "out" = false := by decide +kernel
    have short : ¬ Disk.pathLimit < "out".utf8ByteSize ∧ ¬ Disk.nameLimit < "out".utf8ByteSize := by
      decide
    simp [disk, Disk.read, path, Disk.bytesAt, Disk.find, Disk.locate, places, below, Disk.walk,
      Disk.entryAt, short]
    rfl
  rw [named] at fromInput fromFile
  have staged := (fromCommand host ⟨context, ()⟩ _ rfl ⟨rfl, rfl, rfl⟩ rfl).1 _ named
  have recorded : ran.state.context = _ := staged.2
  refine ⟨fromInput host situation ["extract"] () rfl rfl,
    fromFile host situation ["extract", "out"] "out" () (by simp) held rfl, ?_⟩
  rw [recorded]
  rfl

end Cli

end Rollout
