import Rollout.Proofs.Plan.Overriding

/-!
What decides an answer about a plan file.

Some values of a plan file are written as texts while it is read, and one that cannot be written stops
the reading of its own. So three things decide the answer about a part: the values that are written,
in their order, whether the part is sound, and what is refused of it.
-/

set_option autoImplicit false
set_option relaxedAutoImplicit false

namespace Rollout

/-- The fault of the first of some values that cannot be written. -/
def unwritten? (written : List Value) : Option Fault :=
  written.findSome? fun v => v.writingFault?.map .value

theorem unwritten?_append (front back : List Value) :
    unwritten? (front ++ back) = (unwritten? front).or (unwritten? back) :=
  List.findSome?_append

theorem unwritten?_singleton (v : Value) : unwritten? [v] = v.writingFault?.map .value := by
  unfold unwritten?
  rw [List.findSome?_singleton]

theorem unwritten?_eq_none_iff {written : List Value} :
    unwritten? written = none ↔ ∀ v ∈ written, v.writingFault? = none := by
  simp only [unwritten?, List.findSome?_eq_none_iff, Option.map_eq_none_iff]

theorem unwritten?_of_perm {written others : List Value} (perm : written.Perm others)
    {inner : Value.Fault}
    (alike : ∀ v ∈ written, ∀ fault, v.writingFault? = some fault → fault = inner) :
    unwritten? others = unwritten? written := by
  have only {values : List Value} (same : ∀ v ∈ values, v ∈ written) {fault : Fault}
      (unwritten : unwritten? values = some fault) : fault = .value inner := by
    obtain ⟨v, among, failed⟩ := List.exists_of_findSome?_eq_some unwritten
    obtain ⟨own, fault?, rfl⟩ := Option.map_eq_some_iff.mp failed
    rw [alike v (same v among) own fault?]
  cases here : unwritten? written with
  | none =>
    rw [unwritten?_eq_none_iff] at here ⊢
    exact fun v among => here v (perm.mem_iff.mpr among)
  | some fault =>
    cases there : unwritten? others with
    | some other =>
      rw [only (fun _ => id) here, only (fun _ => perm.mem_iff.mpr) there]
    | none =>
      rw [unwritten?_eq_none_iff] at there
      have none : unwritten? written = none :=
        unwritten?_eq_none_iff.mpr fun v among => there v (perm.mem_iff.mp among)
      cases none.symm.trans here

theorem exists_of_unwritten {written : List Value} {fault : Fault}
    (unwritten : unwritten? written = some fault) : ∃ inner, fault = .value inner := by
  obtain ⟨v, -, failed⟩ := List.exists_of_findSome?_eq_some unwritten
  obtain ⟨inner, -, rfl⟩ := Option.map_eq_some_iff.mp failed
  exact ⟨inner, rfl⟩

/-- Three things decide an answer: if a value that is written cannot be, the first fault of writing is
the fault. Else there is a result if all is sound, and what is refused is the fault, and one of both is
the case. -/
structure Decides {α : Type} (written : List Value) (sound : Prop) (refused : Fault → Prop)
    (answer : Except Fault α) : Prop where
  of_unwritten {fault : Fault} : unwritten? written = some fault → answer = .error fault
  of_sound : unwritten? written = none → sound → ∃ result, answer = .ok result
  of_refused : unwritten? written = none → ∀ fault, refused fault → answer = .error fault
  total : unwritten? written = none → sound ∨ ∃ fault, refused fault

namespace Decides

variable {α β : Type} {written written' : List Value} {sound sound' : Prop}
  {refused refused' : Fault → Prop} {answer : Except Fault α}

theorem of_ok (writable : unwritten? written = none) (well : sound)
    (accepted : ∀ fault, ¬refused fault) (result : α) :
    Decides written sound refused (.ok result) :=
  ⟨fun unwritten => (nomatch writable.symm.trans unwritten), fun _ _ => ⟨result, rfl⟩,
    fun _ fault here => absurd here (accepted fault), fun _ => .inl well⟩

theorem of_error {fault : Fault} (writable : unwritten? written = none) (unsound : ¬sound)
    (here : refused fault) (alone : ∀ other, refused other → other = fault) :
    Decides written sound refused (.error fault : Except Fault α) :=
  ⟨fun unwritten => (nomatch writable.symm.trans unwritten), fun _ well => absurd well unsound,
    fun _ other told => congrArg Except.error (alone other told).symm, fun _ => .inr ⟨fault, here⟩⟩

theorem of_unwritable {fault : Fault} (unwritten : unwritten? written = some fault) :
    Decides written sound refused (.error fault : Except Fault α) :=
  ⟨fun other => by rw [Option.some.inj (unwritten.symm.trans other)],
    fun writable => (nomatch writable.symm.trans unwritten),
    fun writable => (nomatch writable.symm.trans unwritten),
    fun writable => (nomatch writable.symm.trans unwritten)⟩

theorem of_iff (decides : Decides written sound refused answer) (sameWritten : written' = written)
    (sameSound : sound' ↔ sound) (sameRefused : ∀ fault, refused' fault ↔ refused fault) :
    Decides written' sound' refused' answer := by
  subst sameWritten
  obtain rfl : sound' = sound := propext sameSound
  obtain rfl : refused' = refused := funext fun fault => propext (sameRefused fault)
  exact decides

theorem map (decides : Decides written sound refused answer) (f : α → β) :
    Decides written sound refused (answer >>= fun result => .ok (f result)) := by
  refine ⟨fun unwritten => by rw [decides.of_unwritten unwritten]; rfl, fun writable well => ?_,
    fun writable fault here => by rw [decides.of_refused writable fault here]; rfl, decides.total⟩
  obtain ⟨result, rfl⟩ := decides.of_sound writable well
  exact ⟨f result, rfl⟩

theorem bind [Decidable sound] {next : α → Except Fault β}
    (first : Decides written sound refused answer)
    (rest : ∀ result, answer = .ok result → Decides written' sound' refused' (next result)) :
    Decides (written ++ if sound then written' else []) (sound ∧ sound')
      (fun fault => refused fault ∨ sound ∧ refused' fault) (answer >>= next) := by
  cases answer with
  -- The first part fails, so that the second is not looked at.
  | error fault =>
    have unsound : unwritten? written = none → ¬sound := fun writable well => by
      obtain ⟨result, answered⟩ := first.of_sound writable well
      cases answered
    cases unwritten : unwritten? written with
    | some other =>
      cases first.of_unwritten unwritten
      exact of_unwritable (by rw [unwritten?_append, unwritten]; rfl)
    | none =>
      have unsound := unsound unwritten
      obtain ⟨told, here⟩ := (first.total unwritten).resolve_left unsound
      cases first.of_refused unwritten told here
      refine of_error (by rw [if_neg unsound, List.append_nil, unwritten]) (unsound ·.1) (.inl here) ?_
      rintro other (same | ⟨well, -⟩)
      · exact (Except.error.inj (first.of_refused unwritten other same)).symm
      · exact absurd well unsound
  -- The first part is sound, and the second decides.
  | ok result =>
    have writable : unwritten? written = none := by
      cases unwritten : unwritten? written with
      | none => rfl
      | some fault => cases first.of_unwritten unwritten
    have accepted : ∀ fault, ¬refused fault := fun told here => by
      cases first.of_refused writable told here
    have well : sound := (first.total writable).resolve_right fun refusal =>
      accepted refusal.choose refusal.choose_spec
    have second := rest result rfl
    have same : unwritten? (written ++ if sound then written' else []) = unwritten? written' := by
      rw [if_pos well, unwritten?_append, writable, Option.none_or]
    refine ⟨fun unwritten => second.of_unwritten (same ▸ unwritten),
      fun writableBoth both => second.of_sound (same ▸ writableBoth) both.2, ?_, ?_⟩
    · rintro writableBoth told (here | ⟨-, here⟩)
      · exact absurd here (accepted told)
      · exact second.of_refused (same ▸ writableBoth) told here
    · intro writableBoth
      obtain wellToo | ⟨told, here⟩ := second.total (same ▸ writableBoth)
      · exact .inl ⟨well, wellToo⟩
      · exact .inr ⟨told, .inr ⟨well, here⟩⟩

theorem unique [Subsingleton α] {other : Except Fault α}
    (here : Decides written sound refused answer) (there : Decides written' sound refused other)
    (same : unwritten? written' = unwritten? written) : other = answer := by
  cases unwritten : unwritten? written with
  | some fault => rw [here.of_unwritten unwritten, there.of_unwritten (same.trans unwritten)]
  | none =>
    have unwrittenToo := same.trans unwritten
    rcases here.total unwritten with well | ⟨fault, told⟩
    · obtain ⟨result, answered⟩ := here.of_sound unwritten well
      obtain ⟨result', answered'⟩ := there.of_sound unwrittenToo well
      rw [answered, answered', Subsingleton.elim result' result]
    · rw [here.of_refused unwritten fault told, there.of_refused unwrittenToo fault told]

theorem exists_ok_iff (decides : Decides written sound refused answer) :
    (∃ result, answer = .ok result) ↔ unwritten? written = none ∧ sound := by
  refine ⟨?_, fun ⟨writable, well⟩ => decides.of_sound writable well⟩
  rintro ⟨result, rfl⟩
  cases unwritten : unwritten? written with
  | some fault => cases decides.of_unwritten unwritten
  | none =>
    refine ⟨rfl, (decides.total unwritten).resolve_right ?_⟩
    rintro ⟨fault, here⟩
    cases decides.of_refused unwritten fault here

theorem eq_error_iff (decides : Decides written sound refused answer) (fault : Fault) :
    answer = .error fault ↔
      unwritten? written = some fault ∨ unwritten? written = none ∧ refused fault := by
  constructor
  · rintro rfl
    cases unwritten : unwritten? written with
    | some other =>
      cases decides.of_unwritten unwritten
      exact .inl rfl
    | none =>
      obtain well | ⟨told, here⟩ := decides.total unwritten
      · obtain ⟨result, answered⟩ := decides.of_sound unwritten well
        cases answered
      · cases decides.of_refused unwritten told here
        exact .inr ⟨rfl, here⟩
  · rintro (unwritten | ⟨writable, here⟩)
    · exact decides.of_unwritten unwritten
    · exact decides.of_refused writable fault here

end Decides

namespace Value

/-- A value lays entries out: it is a mapping of them, or it counts as not given and there are none. -/
def LaysOut (v : Value) (entries : List (Value × Value)) : Prop :=
  v.isGiven = false ∧ entries = [] ∨ v.isGiven = true ∧ v.opened = .map entries

section Writing

variable {v : Value} {fault : Value.Fault}

theorem show?_of_writable (writable : v.writingFault? = none) :
    v.show?.mapError Rollout.Fault.value = .ok v.shown := by
  rw [show?, writable]
  rfl

theorem show?_of_unwritable (unwritable : v.writingFault? = some fault) :
    v.show?.mapError Rollout.Fault.value = .error (.value fault) := by
  rw [show?, unwritable]
  rfl

theorem quote?_of_writable (writable : v.writingFault? = none) :
    v.quote?.mapError Rollout.Fault.value = .ok v.quote := by
  rw [quote?, writable]
  rfl

theorem quote?_of_unwritable (unwritable : v.writingFault? = some fault) :
    v.quote?.mapError Rollout.Fault.value = .error (.value fault) := by
  rw [quote?, unwritable]
  rfl

end Writing

end Value

namespace Plan

variable {α : Type}

theorem mapM_show_eq (f : α → Value) (items : List α) :
    (items.mapM fun item => (f item).show?.mapError Fault.value) =
      match unwritten? (items.map f) with
      | some fault => .error fault
      | none => .ok (items.map fun item => (f item).shown) := by
  induction items with
  | nil => rfl
  | cons item rest ih =>
    rw [List.mapM_cons, ih, List.map_cons, ← List.singleton_append, unwritten?_append,
      unwritten?_singleton]
    cases here : (f item).writingFault? with
    | some fault =>
      rw [Value.show?_of_unwritable here]
      rfl
    | none =>
      rw [Value.show?_of_writable here]
      cases unwritten? (rest.map f) <;> rfl

end Plan

end Rollout
