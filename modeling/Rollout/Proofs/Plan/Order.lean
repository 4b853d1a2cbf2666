import Mathlib.Data.List.Perm.Basic
import Rollout.Proofs.Plan.Fields

/-!
Plan files in another order.

Every field of a plan is looked up by its name, and no step changes another one. So the order of the
entries of a plan file, of its steps and of their settings does not matter to the plan; it decides only
which of several faults is told. The steps whose names are not known are told all together, in an order
of their own. What stands deeper keeps its order, for it may be written as it is: a mapping can be the
parameter.
-/

set_option autoImplicit false
set_option relaxedAutoImplicit false

namespace Rollout

/-! ### Entries in another order -/

theorem eq_of_rel {α : Type} {a b : Option α} (related : Option.Rel Eq a b) : a = b := by
  cases related with
  | none => rfl
  | some same => exact congrArg some same

theorem exists_some_of_rel {α β : Type} {r : α → β → Prop} {a : α} {b? : Option β}
    (related : Option.Rel r (some a) b?) : ∃ b, b? = some b ∧ r a b := by
  cases related with
  | some here => exact ⟨_, rfl, here⟩

namespace Value

/-- A value is no collection. The keys of a document are of this kind. -/
def IsScalar : Value → Prop
  | .list _ | .set _ | .pair _ _ | .map _ | .knot _ _ | .again _ => False
  | _ => True

theorem IsScalar.fault_eq {v : Value} (scalar : v.IsScalar) {fault : Fault}
    (unwritable : v.writingFault? = some fault) : fault = .tooLongToShow := by
  cases v with
  | int i =>
    have told : (if Number.isOversized i then some Fault.tooLongToShow else none) = some fault :=
      unwritable
    split at told <;> cases told
    rfl
  | moment m =>
    have room : ¬989 < zoneLevels m.offset := by
      unfold zoneLevels
      split <;> decide
    cases (if_neg room).symm.trans unwritable
  | list | set | pair | map | knot | again => exact scalar.elim
  | _ => cases unwritable

/-- Two rows of entries are the same but for their order, and the values under a key are alike. -/
def Rearranged (alike : Value → Value → Value → Prop) (entries others : List (Value × Value)) : Prop :=
  ∃ between, entries.Perm between ∧
    List.Forall₂ (fun entry other => other.1 = entry.1 ∧ alike entry.1 entry.2 other.2) between others

/-- Two values are the same, or mappings that are the same but for the order of their entries. -/
def Reordered (alike : Value → Value → Value → Prop) (v w : Value) : Prop :=
  v = w ∨ ∃ entries others, v.opened = .map entries ∧ w.opened = .map others ∧
    Rearranged alike entries others

variable {alike : Value → Value → Value → Prop} {v w : Value} {entries others : List (Value × Value)}

theorem Rearranged.refl (same : ∀ key value, alike key value value)
    (entries : List (Value × Value)) : Rearranged alike entries entries :=
  ⟨entries, .refl _, List.forall₂_same.mpr fun entry _ => ⟨rfl, same entry.1 entry.2⟩⟩

theorem Rearranged.symm (moved : Rearranged alike entries others)
    (swap : ∀ {key v w}, alike key v w → alike key w v) : Rearranged alike others entries := by
  obtain ⟨between, perm, paired⟩ := moved
  obtain ⟨middle, paired, perm⟩ := List.perm_comp_forall₂ perm paired
  refine ⟨middle, perm.symm, paired.flip.imp ?_⟩
  rintro entry other ⟨key, same⟩
  exact ⟨key.symm, key ▸ swap same⟩

theorem Reordered.symm (moved : Reordered alike v w)
    (swap : ∀ {key v w}, alike key v w → alike key w v) : Reordered alike w v := by
  rcases moved with rfl | ⟨entries, others, mapped, mappedToo, moved⟩
  · exact .inl rfl
  · exact .inr ⟨others, entries, mappedToo, mapped, moved.symm swap⟩

theorem Rearranged.keys (moved : Rearranged alike entries others) :
    (entries.map (·.1)).Perm (others.map (·.1)) := by
  obtain ⟨between, perm, paired⟩ := moved
  have same : between.map (·.1) = others.map (·.1) := by
    clear perm
    induction paired with
    | nil => rfl
    | cons here later ih => rw [List.map_cons, List.map_cons, here.1, ih]
  exact same ▸ perm.map _

theorem Rearranged.exists_mem (moved : Rearranged alike entries others) {entry : Value × Value}
    (mem : entry ∈ entries) : ∃ other ∈ others, other.1 = entry.1 ∧ alike entry.1 entry.2 other.2 := by
  obtain ⟨between, perm, paired⟩ := moved
  have mem : entry ∈ between := perm.mem_iff.mp mem
  clear perm
  induction paired with
  | nil => cases mem
  | @cons first second _ _ here later ih =>
    rcases List.mem_cons.mp mem with rfl | mem
    · exact ⟨second, List.mem_cons_self, here⟩
    · obtain ⟨other, among, same⟩ := ih mem
      exact ⟨other, List.mem_cons_of_mem _ among, same⟩

theorem Rearranged.get? (moved : Rearranged alike entries others) (distinct : Distinct entries)
    (distinctToo : Distinct others) (name : String) :
    Option.Rel (alike (.text name)) (Value.get? entries name) (Value.get? others name) := by
  cases found : Value.get? entries name with
  | none =>
    have absent : Value.get? others name = none := by
      rw [get?_eq_none_iff] at found ⊢
      intro other mem
      have key : other.1 ∈ entries.map (·.1) := moved.keys.mem_iff.mpr (List.mem_map.mpr ⟨_, mem, rfl⟩)
      obtain ⟨entry, among, same⟩ := List.mem_map.mp key
      exact same ▸ found entry among
    rw [absent]
    exact .none
  | some value =>
    obtain ⟨⟨key, value'⟩, among, rfl, same⟩ :=
      moved.exists_mem (distinct.get?_eq_some_iff.mp found)
    rw [distinctToo.get?_eq_some_iff.mpr among]
    exact .some same

theorem isGiven_of_opened (mapped : v.opened = .map entries) : v.isGiven = !entries.isEmpty := by
  cases v with
  | map own =>
    cases mapped
    rfl
  | knot mark body =>
    cases body with
    | map own =>
      cases mapped
      cases own <;> rfl
    | again other | knot other inner =>
      simp only [opened, fill] at mapped
      split at mapped <;> cases mapped
    | _ => cases mapped
  | _ => cases mapped

end Value

namespace Plan

open Value (Rearranged Reordered)

variable {alike : Value → Value → Value → Prop} {v w : Value}

theorem entries?_of_opened {entries : List (Value × Value)} (mapped : v.opened = .map entries) :
    entries? (orEmpty v) = some entries := by
  have given := Value.isGiven_of_opened mapped
  unfold orEmpty
  cases entries with
  | nil =>
    rw [given]
    rfl
  | cons entry rest =>
    rw [given]
    simp [entries?, mapped]

theorem entries?_of_reordered (moved : Reordered alike v w)
    (same : ∀ key value, alike key value value) :
    Option.Rel (Rearranged alike) (entries? (orEmpty v)) (entries? (orEmpty w)) := by
  rcases moved with rfl | ⟨entries, others, mapped, mappedToo, moved⟩
  · cases entries? (orEmpty v) with
    | none => exact .none
    | some entries => exact .some (Rearranged.refl same entries)
  · rw [entries?_of_opened mapped, entries?_of_opened mappedToo]
    exact .some moved

/-! ### Steps one by one -/

/-- Settings of a step in another order. -/
def SettingsReordered : Value → Value → Prop := Reordered fun _ => Eq

/-- Steps in another order, each with its settings in another order. -/
def StepsReordered : Value → Value → Prop := Reordered fun _ => SettingsReordered

/-- What stands under a key of a plan file: the same, or its steps in another order. -/
def FieldReordered (key v w : Value) : Prop := v = w ∨ key = .text "steps" ∧ StepsReordered v w

/-- A plan file in another order, with its steps in another order. -/
def PayloadReordered : Value → Value → Prop := Reordered FieldReordered

theorem StepsReordered.symm (moved : StepsReordered v w) : StepsReordered w v :=
  Reordered.symm moved fun settings => Reordered.symm settings Eq.symm

theorem PayloadReordered.symm (moved : PayloadReordered v w) : PayloadReordered w v :=
  Reordered.symm moved fun same => same.imp Eq.symm fun ⟨key, steps⟩ => ⟨key, steps.symm⟩

theorem override_of_reordered (moved : SettingsReordered v w) (distinct : Value.Distinct (fieldsOf v))
    (distinctToo : Value.Distinct (fieldsOf w)) (command : StepCommand) :
    override command (orEmpty v) = override command (orEmpty w) := by
  have related := entries?_of_reordered moved fun _ _ => rfl
  unfold fieldsOf at distinct distinctToo
  rw [override_eq, override_eq]
  generalize entries? (orEmpty v) = laid at related distinct
  generalize entries? (orEmpty w) = laidToo at related distinctToo
  cases related with
  | none => rfl
  | @some entries others moved =>
    have same (name : String) : Value.get? entries name = Value.get? others name :=
      eq_of_rel (moved.get? distinct distinctToo name)
    simp only [argvIn, cwdIn, descriptionIn, given?, same]

theorem commandIn_of_reordered {steps others : List (Value × Value)}
    (moved : Rearranged (fun _ => SettingsReordered) steps others) (distinct : Value.Distinct steps)
    (distinctToo : Value.Distinct others)
    (settings : ∀ entry ∈ steps, Value.Distinct (fieldsOf entry.2))
    (settingsToo : ∀ entry ∈ others, Value.Distinct (fieldsOf entry.2)) (plan : Plan) (step : Step) :
    commandIn plan steps step = commandIn plan others step := by
  have related := moved.get? distinct distinctToo step.name
  unfold commandIn
  cases here : Value.get? steps step.name with
  | none =>
    rw [here] at related
    generalize Value.get? others step.name = there at related
    cases related
    rfl
  | some v =>
    rw [here] at related
    obtain ⟨w, there, moved⟩ := exists_some_of_rel related
    rw [there]
    have among := distinct.get?_eq_some_iff.mp here
    have amongToo := distinctToo.get?_eq_some_iff.mp there
    exact override_of_reordered moved (settings _ among) (settingsToo _ amongToo) _

/-! ### Plans -/

section Payloads

variable {make : String} {payload other : Value} {entries others : List (Value × Value)}

theorem get?_of_reordered (moved : Rearranged FieldReordered entries others)
    (distinct : Value.Distinct entries) (distinctToo : Value.Distinct others) {name : String}
    (apart : name ≠ "steps") : Value.get? entries name = Value.get? others name := by
  have related := moved.get? distinct distinctToo name
  generalize Value.get? entries name = here at related
  generalize Value.get? others name = there at related
  cases related with
  | none => rfl
  | some same =>
    rcases same with rfl | ⟨key, -⟩
    · rfl
    · exact absurd (Value.text.inj key) apart

theorem steps_of_reordered (moved : Rearranged FieldReordered entries others)
    (distinct : Value.Distinct entries) (distinctToo : Value.Distinct others) :
    StepsReordered ((Value.get? entries "steps").getD .null)
      ((Value.get? others "steps").getD .null) := by
  have related := moved.get? distinct distinctToo "steps"
  generalize Value.get? entries "steps" = here at related
  generalize Value.get? others "steps" = there at related
  cases related with
  | none => exact .inl rfl
  | some same =>
    rcases same with rfl | ⟨-, moved⟩
    · exact .inl rfl
    · exact moved

theorem exists_lists_of_reordered (moved : PayloadReordered payload other) (keyed : IsKeyed payload)
    (keyedToo : IsKeyed other) {steps : List (Value × Value)}
    (lists : Lists payload entries steps) :
    ∃ others further, Lists other others further ∧
      (∀ name, name ≠ "steps" → Value.get? entries name = Value.get? others name) ∧
      Rearranged (fun _ => SettingsReordered) steps further := by
  have wholes := entries?_of_reordered moved fun _ _ => .inl rfl
  rw [laysOut_iff.mp lists.whole] at wholes
  obtain ⟨others, found, fields⟩ := exists_some_of_rel wholes
  have whole : other.LaysOut others := laysOut_iff.mpr found
  have distinct : Value.Distinct entries := fieldsOf_eq lists.whole ▸ keyed.entries
  have distinctToo : Value.Distinct others := fieldsOf_eq whole ▸ keyedToo.entries
  have rows := entries?_of_reordered (steps_of_reordered fields distinct distinctToo)
    fun _ _ => .inl rfl
  rw [laysOut_iff.mp lists.steps] at rows
  obtain ⟨further, listed, rearranged⟩ := exists_some_of_rel rows
  exact ⟨others, further, ⟨whole, laysOut_iff.mpr listed⟩,
    fun name apart => get?_of_reordered fields distinct distinctToo apart, rearranged⟩

theorem unknownKeys_of_reordered {alike : Value → Value → Value → Prop}
    {steps further : List (Value × Value)} (rearranged : Rearranged alike steps further) :
    (unknownKeys steps).Perm (unknownKeys further) := by
  rw [unknownKeys_eq, unknownKeys_eq]
  exact rearranged.keys.filter _

theorem plan_of_reordered (moved : PayloadReordered payload other) (keyed : IsKeyed payload)
    (keyedToo : IsKeyed other) {plan : Plan} (read : ofPayload make payload = .ok plan) :
    ofPayload make other = .ok plan := by
  obtain ⟨entries, steps, base, parameter, timeout, whole, listed, known, overridden, named, timed,
    rfl⟩ := ofPayload_eq_ok_iff.mp read
  have lists : Lists payload entries steps := ⟨laysOut_iff.mpr whole, laysOut_iff.mpr listed⟩
  obtain ⟨others, further, listsToo, same, rearranged⟩ :=
    exists_lists_of_reordered moved keyed keyedToo lists
  have distinct := keyed.steps
  have distinctToo := keyedToo.steps
  have settings := fun entry => @keyed.settings entry
  have settingsToo := fun entry => @keyedToo.settings entry
  rw [stepsOf_eq lists] at distinct settings
  rw [stepsOf_eq listsToo] at distinctToo settingsToo
  have knownToo : refuseUnknown further = .ok () := by
    have none := allKnown_iff.mp ((decides_refuseUnknown steps).exists_ok_iff.mp ⟨_, known⟩).2
    have perm := unknownKeys_of_reordered rearranged
    have noneToo : unknownKeys further = [] := (none ▸ perm).symm.eq_nil
    rw [refuseUnknown_of_perm perm (by rw [none, noneToo]), known]
  have overriddenToo : overrideAll (usual make) further = .ok base := by
    -- The steps are gone through in another order, but each is overridden on its own.
    rw [overrideAll_eq_ok_iff distinct] at overridden
    refine (overrideAll_eq_ok_iff distinctToo).mpr ⟨fun step => ?_, overridden.2⟩
    rw [← commandIn_of_reordered rearranged distinct distinctToo settings settingsToo]
    exact overridden.1 step
  have namedToo : parameterIn base others = .ok parameter := by
    simp only [parameterIn, given?, ← same "parameter" (by decide)]
    exact named
  have timedToo : timeoutIn base others = .ok timeout := by
    simp only [timeoutIn, ← same "timeout" (by decide)]
    exact timed
  exact ofPayload_eq_ok_iff.mpr ⟨others, further, base, parameter, timeout,
    laysOut_iff.mp listsToo.whole, laysOut_iff.mp listsToo.steps, knownToo, overriddenToo, namedToo,
    timedToo, rfl⟩

theorem exists_lists_of_unknown (strange : unknownKeys (stepsOf payload) ≠ []) :
    ∃ entries, Lists payload entries (stepsOf payload) := by
  unfold stepsOf at strange ⊢
  unfold fieldsOf at strange ⊢
  cases whole : entries? (orEmpty payload) with
  | none =>
    rw [whole] at strange
    exact absurd rfl strange
  | some entries =>
    rw [whole] at strange
    simp only [Option.getD_some] at strange ⊢
    cases listed : entries? (orEmpty ((Value.get? entries "steps").getD .null)) with
    | none =>
      rw [listed] at strange
      exact absurd rfl strange
    | some steps => exact ⟨entries, laysOut_iff.mpr whole, laysOut_iff.mpr listed⟩

theorem exists_refused_of_unknown {steps : List (Value × Value)} (strange : unknownKeys steps ≠ []) :
    ∃ fault, refuseUnknown steps = .error fault := by
  cases refused : refuseUnknown steps with
  | error fault => exact ⟨fault, rfl⟩
  | ok done =>
    have known := ((decides_refuseUnknown steps).exists_ok_iff.mp ⟨done, refused⟩).2
    exact absurd (allKnown_iff.mp known) strange

theorem ofPayload_of_refused (make : String) {steps : List (Value × Value)}
    (lists : Lists payload entries steps) {fault : Rollout.Fault}
    (refused : refuseUnknown steps = .error fault) : ofPayload make payload = .error fault := by
  rw [ofPayload_eq, laysOut_iff.mp lists.whole]
  simp only [laysOut_iff.mp lists.steps, refused]
  rfl

end Payloads

/-- The order of the entries of a plan file, of its steps and of their settings does not matter to the
plan. Nor does it to steps whose names are not known: their names are told together, in an order of
their own, unless one of them cannot be written. -/
theorem ofPayload_of_reordered (make : String) {payload other : Value}
    (moved : PayloadReordered payload other) (keyed : IsKeyed payload) (keyedToo : IsKeyed other) :
    (∀ plan, ofPayload make payload = .ok plan ↔ ofPayload make other = .ok plan) ∧
      (∀ plan, ofPayload make payload = .ok plan →
        Entries.names plan.steps = ["deploy-rewards", "deploy-super", "test-program"]) ∧
      (unknownKeys (stepsOf payload) ≠ [] →
        ((∀ key ∈ unknownKeys (stepsOf payload), key.IsScalar) →
          ofPayload make other = ofPayload make payload) ∧
        ((∀ key ∈ unknownKeys (stepsOf payload), key.writingFault? = none) →
          ofPayload make other = ofPayload make payload ∧
            ∃ names, ToldNames names (unknownKeys (stepsOf payload)) ∧
              ofPayload make payload = .error (.plan (.unknownSteps names))) ∧
        ∀ fault, unwritten? (unknownKeys (stepsOf payload)) = some fault →
          ofPayload make payload = .error fault) ∧
      ∀ disk path disk' path', Holds disk path payload → Holds disk' path' other →
        load disk make (some path) = ofPayload make payload ∧
          load disk' make (some path') = ofPayload make other := by
  refine ⟨fun plan => ⟨fun read => plan_of_reordered moved keyed keyedToo read,
    fun read => plan_of_reordered moved.symm keyedToo keyed read⟩, fun _ _ => rfl, ?_,
    fun _ _ _ _ here there => ⟨here.load_eq make, there.load_eq make⟩⟩
  intro strange
  obtain ⟨entries, lists⟩ := exists_lists_of_unknown strange
  obtain ⟨others, further, listsToo, -, rearranged⟩ :=
    exists_lists_of_reordered moved keyed keyedToo lists
  obtain ⟨fault, refused⟩ := exists_refused_of_unknown strange
  have answer := ofPayload_of_refused make lists refused
  -- The names are the same, so that only their writing could depend on the order.
  have sameAnswer {inner : Value.Fault} (alike : ∀ key ∈ unknownKeys (stepsOf payload), ∀ fault,
      key.writingFault? = some fault → fault = inner) :
      ofPayload make other = ofPayload make payload := by
    have perm := unknownKeys_of_reordered rearranged
    have refusedToo : refuseUnknown further = .error fault :=
      (refuseUnknown_of_perm perm (unwritten?_of_perm perm alike)).trans refused
    exact (ofPayload_of_refused make listsToo refusedToo).trans answer.symm
  have decided := ((decides_refuseUnknown (stepsOf payload)).eq_error_iff fault).mp refused
  refine ⟨fun scalars => sameAnswer fun key among _ => (scalars key among).fault_eq,
    fun writable => ⟨@sameAnswer .tooLongToShow fun key among _ fault? => ?_, ?_⟩,
    fun told unwritten => ?_⟩
  · cases (writable key among).symm.trans fault?
  · rw [unwritten?_eq_none_iff.mpr writable] at decided
    obtain ⟨-, -, names, told, rfl⟩ := decided.resolve_left nofun
    exact ⟨names, told, answer⟩
  · rw [unwritten] at decided
    obtain here | ⟨none, -⟩ := decided
    · rw [answer, Option.some.inj here]
    · cases none

private def tidy : Value :=
  .map [(.text "steps", .map [
      (.text "deploy-super", .map [(.text "command", .list [.text "./deploy", .int 3]),
        (.text "cwd", .text "/w")]),
      (.text "test-program", .null)]),
    (.text "parameter", .text "ID")]

private def untidy : Value :=
  .map [(.text "parameter", .text "ID"),
    (.text "steps", .map [
      (.text "test-program", .null),
      (.text "deploy-super", .map [(.text "cwd", .text "/w"),
        (.text "command", .list [.text "./deploy", .int 3])])])]

private theorem reordered_untidy : PayloadReordered tidy untidy := by
  have settings : SettingsReordered
      (.map [(.text "command", .list [.text "./deploy", .int 3]), (.text "cwd", .text "/w")])
      (.map [(.text "cwd", .text "/w"), (.text "command", .list [.text "./deploy", .int 3])]) :=
    .inr ⟨_, _, rfl, rfl, _, .swap .., .cons ⟨rfl, rfl⟩ (.cons ⟨rfl, rfl⟩ .nil)⟩
  exact .inr ⟨_, _, rfl, rfl, _, .swap .., .cons ⟨rfl, .inl rfl⟩ (.cons ⟨rfl, .inr ⟨rfl,
    .inr ⟨_, _, rfl, rfl, _, .swap .., .cons ⟨rfl, .inl rfl⟩ (.cons ⟨rfl, settings⟩ .nil)⟩⟩⟩ .nil)⟩

private theorem isKeyed_tidy : IsKeyed tidy where
  entries := by
    show List.Pairwise _ [_, _]
    decide
  steps := by
    show List.Pairwise _ [_, _]
    decide
  settings among := by
    rcases List.mem_pair.mp among with rfl | rfl
    · show List.Pairwise _ [_, _]
      decide
    · exact .nil

private theorem isKeyed_untidy : IsKeyed untidy where
  entries := by
    show List.Pairwise _ [_, _]
    decide
  steps := by
    show List.Pairwise _ [_, _]
    decide
  settings among := by
    rcases List.mem_pair.mp among with rfl | rfl
    · exact .nil
    · show List.Pairwise _ [_, _]
      decide

/-- Both describe the same plan. -/
theorem ofPayload_of_reordered_untidy :
    PayloadReordered tidy untidy ∧ IsKeyed tidy ∧ IsKeyed untidy ∧
      ofPayload "gmake" untidy = .ok { usual "gmake" with
        registry := { usualCommand "gmake" .registry with
          argv := ["./deploy", "3"], cwd := some (Path.ofString "/w") }
        parameter := "ID" } := by
  refine ⟨reordered_untidy, isKeyed_tidy, isKeyed_untidy, ?_⟩
  obtain ⟨plans, -⟩ := ofPayload_of_reordered "gmake" reordered_untidy isKeyed_tidy isKeyed_untidy
  exact (plans _).mp rfl

/-- A name of a step that is too long to be written is not told. -/
theorem oversized_name_escapes :
    let payload : Value := .map [(.text "steps", .map [(.int (Int.pow 16 3600), .null)])]
    PayloadReordered payload payload ∧ unknownKeys (stepsOf payload) ≠ [] ∧
      ¬∃ told, ofPayload "make" payload = .error (.plan told) := by
  intro payload
  have strange : unknownKeys (stepsOf payload) ≠ [] := nofun
  have long : (Value.int (Int.pow 16 3600)).writingFault? = some .tooLongToShow := by decide +kernel
  refine ⟨.inl rfl, strange, ?_⟩
  rintro ⟨told, failed⟩
  obtain ⟨entries, lists⟩ := exists_lists_of_unknown strange
  have unwritten : unwritten? (unknownKeys (stepsOf payload)) = some (.value .tooLongToShow) := by
    have only : unknownKeys (stepsOf payload) = [.int (Int.pow 16 3600)] := rfl
    rw [only, unwritten?_singleton, long]
    rfl
  have refused := (decides_refuseUnknown (stepsOf payload)).of_unwritten unwritten
  cases failed.symm.trans (ofPayload_of_refused "make" lists refused)

end Plan

end Rollout
