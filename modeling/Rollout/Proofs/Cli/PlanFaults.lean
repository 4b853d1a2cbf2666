import Rollout.Proofs.Cli.Commands
import Rollout.Proofs.Plan.Acceptance

/-!
What becomes of plan files that are refused.

Most of what can be wrong with the value of a plan file is told as a plan fault, and the program ends
with the status of a misuse. Three things are not: a line that cannot be split into words, a value that
cannot be written, and a whole number that is out of range as a timeout. Their faults leave the program
as they are.
-/

set_option autoImplicit false
set_option relaxedAutoImplicit false

namespace Rollout

namespace Plan

/-- The value of a plan file is refused with a fault that is no plan fault. -/
def Escapes (payload : Value) (fault : Rollout.Fault) : Prop :=
  unwritten? (written payload) = some fault ∨
    unwritten? (written payload) = none ∧ Unforeseen payload fault

theorem Unforeseen.ne_plan {payload : Value} {fault : Rollout.Fault}
    (unforeseen : Unforeseen payload fault) (told : Plan.Fault) : fault ≠ .plan told := by
  cases unforeseen <;> exact nofun

theorem Escapes.ne_plan {payload : Value} {fault : Rollout.Fault} (escapes : Escapes payload fault)
    (told : Plan.Fault) : fault ≠ .plan told := by
  rcases escapes with unwritten | ⟨-, unforeseen⟩
  · obtain ⟨inner, rfl⟩ := exists_of_unwritten unwritten
    exact nofun
  · exact unforeseen.ne_plan told

theorem ofPayload_eq_error_of_escapes (make : String) {payload : Value} {fault : Rollout.Fault}
    (escapes : Escapes payload fault) : ofPayload make payload = .error fault := by
  rw [(decides_ofPayload make payload).eq_error_iff]
  exact escapes.imp_right fun both => ⟨both.1, both.2.refusal⟩

theorem plan_or_escapes {make : String} {payload : Value} {fault : Rollout.Fault}
    (failed : ofPayload make payload = .error fault) :
    (∃ told, fault = .plan told) ∨ Escapes payload fault := by
  rw [(decides_ofPayload make payload).eq_error_iff] at failed
  rcases failed with unwritten | ⟨writable, refused⟩
  · exact .inr (.inl unwritten)
  · exact refused.plan_or_unforeseen.imp_right fun unforeseen => .inr ⟨writable, unforeseen⟩

end Plan

namespace Cli

variable {σ : Type} (host : Host σ) {situation : Situation} {parsed : Command} {fault : Fault}

theorem command_of_unloaded (uses : parsed.usesPlan = true)
    (unloaded : situation.context = .error fault) (world : σ) :
    command host situation parsed world =
      ⟨codeTold (.error fault), planFaultTold (.error fault), world⟩ := by
  simp only [command, tellPlanFault, Act.bind_apply, Act.attempt_apply,
    perform_of_unloaded host uses unloaded]
  cases fault <;> rfl

theorem context_of_unplanned {settings : Settings}
    (loaded : Settings.load situation.disk situation.environment = .ok settings)
    (unplanned : Plan.load situation.disk settings.make settings.planPath = .error fault) :
    situation.context = .error fault := by
  rw [Situation.context, Context.load, loaded]
  exact congrArg (· >>= fun plan => pure (Context.start settings plan situation.now)) unplanned

/-- A value of a plan file that is no plan is told as a plan fault, with the status of a misuse,
unless it escapes. What escapes ends every command that works with a plan as it is. -/
theorem plan_fault_told_or_escapes (make : String) (payload : Value) :
    (∀ fault, Plan.ofPayload make payload = .error fault →
      (∃ told, fault = .plan told) ∨ Plan.Escapes payload fault) ∧
    (∀ fault, Plan.Escapes payload fault →
      Plan.ofPayload make payload = .error fault ∧ ∀ told, fault ≠ .plan told) ∧
    ∀ {σ : Type} (host : Host σ) (situation : Situation) (arguments : List String)
        (parsed : Command) (settings : Settings) (path : Path) (bytes : List UInt8) (world : σ),
      read arguments = .ok parsed → parsed.usesPlan = true →
      Settings.load situation.disk situation.environment = .ok settings →
      settings.make = make → settings.planPath = some path →
      situation.disk.hasEntry path = .ok true → situation.disk.read path = .ok bytes →
      Plan.payload bytes = .ok payload →
      (∀ told, Plan.ofPayload make payload = .error (.plan told) →
        obey host situation arguments world =
          ⟨.ok 2, [.err ("Error: " ++ told.message ++ "\n")], world⟩) ∧
      ∀ fault, Plan.Escapes payload fault →
        obey host situation arguments world = ⟨.error fault, [], world⟩ := by
  refine ⟨fun fault => Plan.plan_or_escapes, fun fault escapes =>
    ⟨Plan.ofPayload_eq_error_of_escapes make escapes, escapes.ne_plan⟩, ?_⟩
  intro σ host situation arguments parsed settings path bytes world reads uses loaded rfl named
    present held parsedBytes
  have ended {fault : Fault} (failed : Plan.ofPayload settings.make payload = .error fault) :
      obey host situation arguments world =
        ⟨codeTold (.error fault), planFaultTold (.error fault), world⟩ := by
    have unplanned : Plan.load situation.disk settings.make settings.planPath = .error fault := by
      rw [named, Plan.load_of_read settings.make present held parsedBytes, failed]
    rw [obey_of_read host reads]
    exact command_of_unloaded host uses (context_of_unplanned loaded unplanned) world
  refine ⟨fun told failed => ended failed, fun fault escapes => ?_⟩
  rw [ended (Plan.ofPayload_eq_error_of_escapes settings.make escapes)]
  have untold := escapes.ne_plan
  cases fault with
  | plan told => exact absurd rfl (untold told)
  | _ => rfl

/-- A command with an unclosed quote makes neither a plan nor a plan fault. -/
theorem unclosed_quote_escapes :
    let settings : Value := .map [(.text "command", .text "make 'x")]
    let payload : Value := .map [(.text "steps", .map [(.text "deploy-rewards", settings)])]
    ¬((∃ plan, Plan.ofPayload "make" payload = .ok plan) ∨
      ∃ told, Plan.ofPayload "make" payload = .error (.plan told)) := by
  intro settings payload
  have escaped : Plan.ofPayload "make" payload = .error (.words .unclosedQuote) := rfl
  rintro (⟨plan, loaded⟩ | ⟨told, failed⟩)
  · cases escaped.symm.trans loaded
  · cases escaped.symm.trans failed

end Cli

end Rollout
