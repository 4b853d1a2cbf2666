import Rollout.Proofs.Machine.Launch
import Rollout.Proofs.Sequence.Course
import Rollout.Proofs.Text.Utf8
import Rollout.Proofs.Token.Places

/-!
A token among noise.

Whatever bytes a deploy command prints around its token, text or not, the token is read as it was
written, and the noise in front of it and behind it is read as if each stood alone. So noise without
tokens does no harm to the id, and noise with tokens is not overlooked.
-/

set_option autoImplicit false
set_option relaxedAutoImplicit false

namespace Rollout

theorem Machine.textOf_around (front back : List UInt8) {id : List Char} (straight : '\r' ∉ id) :
    textOf (front ++ (Text.Utf8.encode (Token.render id) ++ back)) =
      textOf front ++ (String.ofList (Token.render id) ++ textOf back) := by
  -- The first byte of a token is below 128, so no sequence in front of it takes it in.
  have bytes : Text.Utf8.encode (Token.render id) =
      0x7B :: Text.Utf8.encode (Token.opening.tail ++ (id ++ [Token.closeBrace])) := by
    rw [Token.render_eq_cons, Text.Utf8.encode_cons]
    rfl
  have decoded : Text.Utf8.decodeLossy (front ++ (Text.Utf8.encode (Token.render id) ++ back)) =
      Text.Utf8.decodeLossy front ++ (Token.render id ++ Text.Utf8.decodeLossy back) := by
    rw [← Text.Utf8.decodeLossy_encode_append, bytes, List.cons_append]
    exact Text.Utf8.decodeLossy_append front (by decide) _
  -- It is no line feed either, so a carriage return in front of it stands alone.
  have unified : Text.unifyLineEnds
      (Text.Utf8.decodeLossy front ++ (Token.render id ++ Text.Utf8.decodeLossy back)) =
        Text.unifyLineEnds (Text.Utf8.decodeLossy front) ++
          (Token.render id ++ Text.unifyLineEnds (Text.Utf8.decodeLossy back)) := by
    have plain : '\r' ∉ Token.render id := by
      have opens : '\r' ∉ Token.opening := by decide
      have closes : '\r' ≠ Token.closeBrace := by decide
      simp [Token.render, opens, closes, straight]
    rw [← Text.unifyLineEnds_append_of_not_mem plain, Token.render_eq_cons, List.cons_append]
    exact Text.unifyLineEnds_append _ (by decide) _
  rw [textOf, decoded, unified, String.ofList_append, String.ofList_append]
  rfl

section Noise

variable (front back : List UInt8) {id : String}

private theorem extract_textOf_around (straight : '\r' ∉ id.toList)
    (noOpen : Token.openBrace ∉ id.toList) (noClose : Token.closeBrace ∉ id.toList) :
    let text := Machine.textOf (front ++ (Text.Utf8.encode (Token.render id.toList) ++ back))
    let noisy := (Token.places (Machine.textOf front).toList).Nonempty ∨
      (Token.places (Machine.textOf back).toList).Nonempty
    (¬ noisy → Text.trim id.toList ≠ [] → Token.extract text = .ok id) ∧
      (noisy ∨ Text.trim id.toList = [] → ∃ fault, Token.extract text = .error fault) := by
  intro text noisy
  have found : Token.occurrences text.toList =
      Token.occurrences (Machine.textOf front).toList ++
        id.toList :: Token.occurrences (Machine.textOf back).toList := by
    have read : text = _ := Machine.textOf_around front back straight
    rw [read, String.toList_append, String.toList_append, String.toList_ofList,
      Token.occurrences_around noOpen noClose]
  have blank_iff : Text.trim id.toList = [] ↔ Text.isBlankText id = true :=
    Text.trim_eq_nil_iff id.toList
  constructor
  · intro quiet inked
    simp only [noisy, Token.places_nonempty_iff, not_or, not_not] at quiet
    rw [Token.extract_eq_ok_iff, Token.Names, found, quiet.1, quiet.2]
    exact ⟨rfl, by simpa [blank_iff] using inked⟩
  · intro spoiled
    cases extracted : Token.extract text with
    | error fault => exact ⟨fault, rfl⟩
    | ok other =>
      obtain ⟨only, inked⟩ := Token.extract_eq_ok_iff.mp extracted
      rw [found, List.append_eq_singleton_iff] at only
      have alone : Token.occurrences (Machine.textOf front).toList = [] ∧
          id.toList = other.toList ∧ Token.occurrences (Machine.textOf back).toList = [] := by
        simpa using only
      obtain ⟨noFront, same, noBack⟩ := alone
      rw [← String.toList_inj.mp same] at inked
      simp [noisy, Token.places_nonempty_iff, noFront, noBack, blank_iff, inked] at spoiled

/-- Whatever bytes a command prints around a token, they are read as if they stood alone, and so is
the token. Where they hold no token and the id is not blank, the rewards stage records exactly that
id; else it fails, because the output does not name one program. -/
theorem programId_amid_noise (straight : '\r' ∉ id.toList) (noOpen : Token.openBrace ∉ id.toList)
    (noClose : Token.closeBrace ∉ id.toList) :
    let printed := front ++ (Text.Utf8.encode (Token.render id.toList) ++ back)
    let text := Machine.textOf front ++ (String.ofList (Token.render id.toList) ++
      Machine.textOf back)
    let noisy := (Token.places (Machine.textOf front).toList).Nonempty ∨
      (Token.places (Machine.textOf back).toList).Nonempty
    Machine.textOf printed = text ∧
      (∀ call world, Machine.Prints call world printed → ∃ ending,
        (Machine.launch call world).answer = .ok (.ofEnding call.argv ending (some text))) ∧
      ∀ {σ : Type} (host : Host σ) (desk : Desk σ) (result : Result),
        Succeeds (host.reply (Stage.rewardsCall desk.context) desk.world) result →
        result.output = some text →
        let ran := Desk.runStage host (.usual host) Step.rewards.name desk
        let step := desk.context.plan.rewards.name
        let outcome : Outcome := ⟨step, some result, some id⟩
        (¬ noisy → Text.trim id.toList ≠ [] → ran.answer = .ok (some outcome) ∧
          ran.state.context = desk.context.record Step.rewards.name outcome) ∧
        (noisy ∨ Text.trim id.toList = [] → ran.state.context = desk.context ∧
          ∃ fault, ran.answer = .error (.step (.extraction step (.token fault) 1))) := by
  intro printed text noisy
  have read : Machine.textOf printed = text := Machine.textOf_around front back straight
  obtain ⟨named, unnamed⟩ := extract_textOf_around front back straight noOpen noClose
  refine ⟨read, fun call world prints => ?_, fun {σ} host desk result success output => ?_⟩
  · rw [← read]
    exact Machine.launch_of_prints prints
  · have verdict : desk.verdict host .rewards (Stage.rewardsCall desk.context) = _ :=
      Desk.verdict_of_succeeds host success
    simp only [Stage.handedOn, output, Option.getD_some, ← read] at verdict
    have made : Stage.callFor desk.context .rewards = .ok (Stage.rewardsCall desk.context) := rfl
    refine ⟨fun quiet inked => ?_, fun spoiled => ?_⟩
    · rw [named quiet inked] at verdict
      obtain ⟨answer, -, state⟩ := Desk.runStage_usual_of_ok host made verdict
      exact ⟨answer, congrArg Desk.context state⟩
    · obtain ⟨fault, extracted⟩ := unnamed spoiled
      rw [extracted] at verdict
      obtain ⟨answer, -, state⟩ := Desk.runStage_usual_of_error host made verdict
      have kept := congrArg Desk.context state
      exact ⟨kept, fault, answer⟩

/-- An id is read between a broken byte, a carriage return and a sequence that is cut off in front
of it, and a line feed and a stray byte behind it. -/
theorem programId_amid_broken_bytes :
    let front : List UInt8 := [0xFF, 0x0D, 0xE2, 0x82]
    let back : List UInt8 := [0x0A, 0x80]
    let printed := front ++ (Text.Utf8.encode (Token.render "ł\n4".toList) ++ back)
    let host : Host Unit :=
      ⟨fun call world => ⟨.ok ⟨call.argv, 0, some (Machine.textOf printed), false⟩, [], world⟩,
        fun world => (.zero false, world)⟩
    let context : Context := .start ⟨.top, none, none, "make", "INFO"⟩ (.usual "make") default
    let ran := Desk.runStage host (.usual host) Step.rewards.name ⟨context, ()⟩
    '\r' ∉ "ł\n4".toList ∧ Token.openBrace ∉ "ł\n4".toList ∧ Token.closeBrace ∉ "ł\n4".toList ∧
      Machine.textOf printed = "\uFFFD\n\uFFFD\x7bprogramId: ł\n4\x7d\n\uFFFD" ∧
      ran.state.context.programId = some "ł\n4" := by
  intro front back printed host context ran
  have straight : '\r' ∉ "ł\n4".toList := by decide
  have noOpen : Token.openBrace ∉ "ł\n4".toList := by decide
  have noClose : Token.closeBrace ∉ "ł\n4".toList := by decide
  obtain ⟨read, -, staged⟩ := programId_amid_noise front back straight noOpen noClose
  have before : Machine.textOf front = "\uFFFD\n\uFFFD" := by decide +kernel
  have behind : Machine.textOf back = "\n\uFFFD" := by decide +kernel
  rw [before, behind] at read staged
  have quiet : ¬ ((Token.places "\uFFFD\n\uFFFD".toList).Nonempty ∨
      (Token.places "\n\uFFFD".toList).Nonempty) := by
    rw [Token.places_nonempty_iff, Token.places_nonempty_iff]
    decide
  have inked : Text.trim "ł\n4".toList ≠ [] := by decide
  obtain ⟨-, recorded⟩ := (staged host ⟨context, ()⟩ _ ⟨rfl, rfl, rfl⟩ (congrArg some read)).1
    quiet inked
  have held : ran.state.context = _ := recorded
  refine ⟨straight, noOpen, noClose, read, ?_⟩
  rw [held]
  rfl

end Noise

end Rollout
