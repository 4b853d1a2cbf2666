import Mathlib
import Rollout.Environment
import Rollout.Proofs.Text.Strip

/-!
How files seed the environment.

The assignments of all seed files form one row, and they are carried out one by one. What is defined
stays as it is, so the first assignment of a name counts; an assignment that cannot be carried out
ends the row, and what was defined before it remains.
-/

set_option autoImplicit false
set_option relaxedAutoImplicit false

namespace Rollout.Environment

open Text (Strips isBlank)

/-! ### Assignments -/

/-- A line assigns a value to a name: without the blanks at its ends it is no comment, the name stands
before its first equals sign and the value behind it, each without the blanks at its ends, and the
value without the double quotes at its ends. -/
def Assigns (line : List Char) (name value : String) : Prop :=
  ∃ core before after inner, Strips isBlank line core ∧ core.head? ≠ some '#' ∧
    core = before ++ '=' :: after ∧ '=' ∉ before ∧ Strips isBlank before name.toList ∧
    Strips isBlank after inner ∧ Strips (· == '"') inner value.toList

theorem splitAtEquals_eq_some_iff {cs before after : List Char} :
    splitAtEquals cs = some (before, after) ↔ cs = before ++ '=' :: after ∧ '=' ∉ before := by
  induction cs generalizing before with
  | nil => simp [splitAtEquals]
  | cons c rest ih =>
    by_cases here : c = '='
    · subst here
      cases before with
      | nil => simp [splitAtEquals, eq_comm]
      | cons d more =>
        simp only [splitAtEquals, beq_self_eq_true, if_true, List.cons_append, List.cons.injEq]
        constructor
        · nofun
        · rintro ⟨⟨rfl, -⟩, none⟩
          exact absurd List.mem_cons_self none
    · cases before with
      | nil => simp [splitAtEquals, here]
      | cons d more =>
        have step : splitAtEquals (c :: rest) = some (d :: more, after) ↔
            splitAtEquals rest = some (more, after) ∧ c = d := by
          simp [splitAtEquals, here]
        rw [step, ih]
        simp only [List.cons_append, List.cons.injEq, List.mem_cons, not_or]
        constructor
        · rintro ⟨⟨rfl, none⟩, rfl⟩
          exact ⟨⟨rfl, rfl⟩, Ne.symm here, none⟩
        · rintro ⟨⟨rfl, rfl⟩, -, none⟩
          exact ⟨⟨rfl, none⟩, rfl⟩

theorem assignment?_eq_some_iff {line : List Char} {name value : String} :
    assignment? line = some (name, value) ↔ Assigns line name value := by
  unfold assignment? Assigns
  dsimp only
  constructor
  · intro made
    split at made
    · cases made
    · rename_i plain
      obtain ⟨⟨before, after⟩, split, same⟩ := Option.map_eq_some_iff.mp made
      obtain ⟨parts, none⟩ := splitAtEquals_eq_some_iff.mp split
      cases same
      exact ⟨_, before, after, _, Text.strips_iff.mpr rfl, plain, parts, none,
        Text.strips_iff.mpr (by simp [Text.trim]), Text.strips_iff.mpr rfl,
        Text.strips_iff.mpr (by simp [Text.trim])⟩
  · rintro ⟨core, before, after, inner, stripped, plain, parts, none, named, valued, unquoted⟩
    have bare : Text.trim line = core := (Text.strips_iff.mp stripped).symm
    have left : Text.trim before = name.toList := (Text.strips_iff.mp named).symm
    have right : Text.trim after = inner := (Text.strips_iff.mp valued).symm
    rw [bare, if_neg plain, splitAtEquals_eq_some_iff.mpr ⟨parts, none⟩, Option.map_some, left, right,
      ← Text.strips_iff.mp unquoted, String.ofList_toList, String.ofList_toList]

/-! ### Rows of assignments -/

/-- An assignment cannot be carried out: its name is not defined, and it is empty, or a null character
stands in it or in the value. -/
def Halts (defined : Environment) (entry : String × String) : Prop :=
  defined.get? entry.1 = none ∧
    ('\x00' ∈ entry.1.toList ∨ '\x00' ∈ entry.2.toList ∨ entry.1 = "")

/-- All assignments of a row can be carried out, each after those before it. -/
def Runs (environment : Environment) (row : List (String × String)) : Prop :=
  ∀ front entry back, row = front ++ entry :: back → ¬Halts (environment ++ front) entry

def faultOf (entry : String × String) : Fault :=
  if entry.1.contains '\x00' || entry.2.contains '\x00' then .nullCharacter
  else .disk ⟨.invalid, none⟩

section Define

variable {environment : Environment} {name value : String}

theorem define_of_defined (there : environment.get? name ≠ none) :
    environment.define name value = .ok environment := by
  have has : environment.has name = true := Option.isSome_iff_ne_none.mpr there
  rw [define, if_pos has]

theorem define_of_halts (halts : Halts environment (name, value)) :
    environment.define name value = .error (faultOf (name, value)) := by
  obtain ⟨absent, bad⟩ := halts
  have has : ¬environment.has name = true := by simp [Entries.has, absent]
  rw [define, if_neg has, faultOf]
  split
  · rfl
  · rename_i plain
    simp only [String.contains_char_eq, Bool.or_eq_true, decide_eq_true_eq, not_or] at plain
    have empty : name = "" := (bad.resolve_left plain.1).resolve_left plain.2
    rw [if_pos (String.isEmpty_iff.mpr empty)]

theorem define_of_fresh (absent : environment.get? name = none)
    (sound : ¬Halts environment (name, value)) :
    environment.define name value = .ok (environment ++ [(name, value)]) := by
  have has : ¬environment.has name = true := by simp [Entries.has, absent]
  have good : ¬('\x00' ∈ name.toList ∨ '\x00' ∈ value.toList ∨ name = "") :=
    fun bad => sound ⟨absent, bad⟩
  simp only [not_or] at good
  rw [define, if_neg has, if_neg, if_neg]
  · simpa using good.2.2
  · simpa [String.contains_char_eq] using ⟨good.1, good.2.1⟩

end Define

/-- What has been carried out when a row of assignments ends: all of it, or what stands before the
first assignment that cannot be carried out. -/
structure Carries (environment : Environment) (row : List (String × String))
    (after : Environment) (fault : Option Fault) (done rest : List (String × String)) : Prop where
  parts : row = done ++ rest
  runs : Runs environment done
  effect : environment.defineAll done = (after, none)
  kept : environment <+: after
  get? (name : String) : after.get? name = (environment.get? name).or (Entries.get? name done)
  ending : rest = [] ∧ fault = none ∨ ∃ entry more, rest = entry :: more ∧
    Halts (environment ++ done) entry ∧ fault = some (faultOf entry)

theorem halts_congr {defined other : Environment} {entry : String × String}
    (same : ∀ name, other.get? name = defined.get? name) : Halts other entry ↔ Halts defined entry := by
  unfold Halts
  rw [same]

theorem runs_nil (environment : Environment) : Runs environment [] := by
  rintro (_ | ⟨first, front⟩) entry back split <;> cases split

section Cons

variable {environment next : Environment} {entry : String × String}

theorem defineAll_cons (defined : environment.define entry.1 entry.2 = .ok next)
    (row : List (String × String)) : environment.defineAll (entry :: row) = next.defineAll row := by
  rw [defineAll, defined]

theorem defineAll_cons_of_halts (halts : Halts environment entry) (row : List (String × String)) :
    environment.defineAll (entry :: row) = (environment, some (faultOf entry)) := by
  have stopped : environment.define entry.1 entry.2 = .error (faultOf entry) := define_of_halts halts
  rw [defineAll, stopped]

theorem Carries.cons {after : Environment} {row done rest : List (String × String)}
    {fault : Option Fault} (carries : Carries next row after fault done rest)
    (sound : ¬Halts environment entry) (defined : environment.define entry.1 entry.2 = .ok next)
    (kept : environment <+: next)
    (same : ∀ name, (environment ++ [entry] : Environment).get? name = next.get? name) :
    Carries environment (entry :: row) after fault (entry :: done) rest := by
  have same' (front : List (String × String)) (name : String) :
      (environment ++ entry :: front : Environment).get? name =
        (next ++ front : Environment).get? name := by
    have joined : environment ++ entry :: front = environment ++ [entry] ++ front := by simp
    rw [joined, Entries.get?_append, same, Entries.get?_append]
  refine ⟨congrArg (entry :: ·) carries.parts, ?_, ?_, kept.trans carries.kept, ?_, ?_⟩
  · intro front other back split
    cases front with
    | nil =>
      obtain ⟨rfl, -⟩ := List.cons.inj split
      rw [List.append_nil]
      exact sound
    | cons first front =>
      obtain ⟨rfl, later⟩ := List.cons.inj split
      rw [halts_congr (same' front)]
      exact carries.runs front other back later
  · rw [defineAll_cons defined]
    exact carries.effect
  · intro name
    rw [← Entries.get?_append, same', carries.get?, Entries.get?_append]
  · refine carries.ending.imp_right ?_
    rintro ⟨other, more, split, halts, told⟩
    exact ⟨other, more, split, (halts_congr (same' done)).mpr halts, told⟩

end Cons

theorem exists_carries (environment : Environment) (row : List (String × String)) :
    ∃ done rest, Carries environment row (environment.defineAll row).1 (environment.defineAll row).2
      done rest := by
  induction row generalizing environment with
  | nil =>
    refine ⟨[], [], rfl, runs_nil _, rfl, List.prefix_rfl, fun name => ?_, .inl ⟨rfl, rfl⟩⟩
    rw [defineAll, Entries.get?, Option.or_none]
  | cons entry row ih =>
    by_cases halts : Halts environment entry
    · rw [defineAll_cons_of_halts halts]
      refine ⟨[], entry :: row, rfl, runs_nil _, rfl, List.prefix_rfl, fun name => ?_, .inr ?_⟩
      · rw [Entries.get?, Option.or_none]
      · exact ⟨entry, row, rfl, by rwa [List.append_nil], rfl⟩
    · cases there : environment.get? entry.1 with
      | none =>
        have defined := define_of_fresh there halts
        obtain ⟨done, rest, carries⟩ := ih (environment ++ [entry])
        rw [defineAll_cons defined]
        exact ⟨entry :: done, rest, carries.cons halts defined (List.prefix_append _ _) fun _ => rfl⟩
      -- What is defined hides the assignment, and the environment stays as it is.
      | some old =>
        have defined : environment.define entry.1 entry.2 = .ok environment :=
          define_of_defined (by rw [there]; exact Option.some_ne_none old)
        have hidden (name : String) :
            (environment ++ [entry] : Environment).get? name = environment.get? name := by
          rw [Entries.get?_append]
          by_cases here : entry.1 = name
          · rw [← here, there]
            rfl
          · simp [Entries.get?, here]
        obtain ⟨done, rest, carries⟩ := ih environment
        rw [defineAll_cons defined]
        exact ⟨entry :: done, rest, carries.cons halts defined List.prefix_rfl hidden⟩

/-! ### Files -/

def linesOf (text : List Char) : List (List Char) := Text.lines (Text.unifyLineEnds text)

/-- The texts of those files of a row that are there; all of them can be read. -/
inductive Holds (disk : Disk) : List Path → List (List Char) → Prop
  | nil : Holds disk [] []
  | absent {path : Path} {paths : List Path} {texts : List (List Char)} :
      disk.hasEntry path = .ok false → Holds disk paths texts → Holds disk (path :: paths) texts
  | present {path : Path} {paths : List Path} {bytes : List UInt8} {text : List Char}
      {texts : List (List Char)} : disk.hasEntry path = .ok true → disk.read path = .ok bytes →
      Text.Utf8.decodeFile bytes = (text, none) → Holds disk paths texts →
      Holds disk (path :: paths) (text :: texts)

theorem defineAll_append (environment : Environment) (front back : List (String × String)) :
    environment.defineAll (front ++ back) =
      match environment.defineAll front with
      | (after, none) => after.defineAll back
      | failed => failed := by
  induction front generalizing environment with
  | nil => rfl
  | cons entry front ih =>
    rw [List.cons_append, defineAll, defineAll]
    cases environment.define entry.1 entry.2 with
    | error fault => rfl
    | ok next => exact ih next

theorem seed_of_text {bytes : List UInt8} {text : List Char}
    (decoded : Text.Utf8.decodeFile bytes = (text, none)) (environment : Environment) :
    environment.seed bytes = environment.defineAll (assignments (linesOf text)) := by
  rw [seed, decoded]
  rfl

theorem seedAll_of_holds {disk : Disk} {paths : List Path} {texts : List (List Char)}
    (holds : Holds disk paths texts) (environment : Environment) :
    seedAll disk environment paths =
      environment.defineAll (assignments (texts.flatMap linesOf)) := by
  induction holds generalizing environment with
  | nil => rfl
  | absent missing _ ih =>
    rw [seedAll, missing]
    exact ih environment
  | @present path paths bytes text texts there held decoded _ ih =>
    have row : assignments ((text :: texts).flatMap linesOf) =
        assignments (linesOf text) ++ assignments (texts.flatMap linesOf) := by
      rw [List.flatMap_cons, assignments, List.filterMap_append]
      rfl
    rw [seedAll, there, row, defineAll_append]
    rcases seeding : environment.defineAll (assignments (linesOf text)) with ⟨after, fault?⟩
    simp only [held, seed_of_text decoded, seeding]
    cases fault? with
    | none => exact ih after
    | some fault => rfl

theorem seedAll_congr {disk other : Disk} {paths : List Path}
    (same : ∀ path ∈ paths, other.hasEntry path = disk.hasEntry path ∧
      other.read path = disk.read path) (environment : Environment) :
    seedAll other environment paths = seedAll disk environment paths := by
  induction paths generalizing environment with
  | nil => rfl
  | cons path rest ih =>
    have later (next : Environment) : seedAll other next rest = seedAll disk next rest :=
      ih (fun path mem => same path (List.mem_cons_of_mem _ mem)) next
    obtain ⟨entry, held⟩ := same path List.mem_cons_self
    simp only [seedAll, entry, held, later]

/-- The first assignment of a name that is not defined counts, in the lines of the file that the
environment names and then in those of the usual file; what is defined stays. An assignment that
cannot be carried out ends the seeding, and no other files are read. -/
theorem load_of_texts {disk : Disk} {environment : Environment} {texts : List (List Char)}
    (holds : Holds disk environment.seedFiles texts) :
    let row := assignments (texts.flatMap linesOf)
    let after := (load disk environment).1
    (∀ line name value, assignment? line = some (name, value) ↔ Assigns line name value) ∧
      (∀ name value, environment.get? name = some value → after.get? name = some value) ∧
      (∃ done rest, Carries environment row after (load disk environment).2 done rest) ∧
      environment.seedFiles =
        (match environment.get? "ENV_FILE" with
          | some file => if file = "" then [] else [Path.ofString file]
          | none => []) ++ [Path.ofString ".env"] ∧
      ∀ other : Disk, (∀ path ∈ environment.seedFiles,
        other.hasEntry path = disk.hasEntry path ∧ other.read path = disk.read path) →
        load other environment = load disk environment := by
  intro row after
  have carried : ∃ done rest, Carries environment row after (load disk environment).2 done rest := by
    have run : load disk environment = environment.defineAll row := seedAll_of_holds holds environment
    simp only [after, run]
    exact exists_carries environment row
  refine ⟨fun line name value => assignment?_eq_some_iff, ?_, carried, ?_, ?_⟩
  · intro name value there
    obtain ⟨done, rest, carries⟩ := carried
    rw [carries.get?, there, Option.some_or]
  · unfold seedFiles given?
    cases environment.get? "ENV_FILE" with
    | none => rfl
    | some file => by_cases empty : file = "" <;> simp [Option.filter, empty]
  · exact fun other same => seedAll_congr same environment

private def seedText : List Char := "A=1\n B = \"x=y\" \r\nB=2\n".toList

private def usualText : List Char := "ENV_FILE=other\n=4\nC=5\n".toList

private def seeded : Disk where
  entries :=
    [(["seed"], .file (Text.Utf8.encode seedText) 0o644),
      ([".env"], .file (Text.Utf8.encode usualText) 0o644)]
  here := []

private theorem holds_seeded :
    Holds seeded [.ofString "seed", .ofString ".env"] [seedText, usualText] := by
  have seed : seeded.hasEntry (.ofString "seed") = .ok true := by cbv
  have usual : seeded.hasEntry (.ofString ".env") = .ok true := by cbv
  have seedRead : seeded.read (.ofString "seed") = .ok (Text.Utf8.encode seedText) := by cbv
  have usualRead : seeded.read (.ofString ".env") = .ok (Text.Utf8.encode usualText) := by cbv
  have seedDecoded : Text.Utf8.decodeFile (Text.Utf8.encode seedText) = (seedText, none) := by cbv
  have usualDecoded : Text.Utf8.decodeFile (Text.Utf8.encode usualText) = (usualText, none) := by
    cbv
  exact .present seed seedRead seedDecoded (.present usual usualRead usualDecoded .nil)

private theorem load_seeded :
    load seeded [("A", "0"), ("ENV_FILE", "seed")] =
      ([("A", "0"), ("ENV_FILE", "seed"), ("B", "x=y")], some (.disk ⟨.invalid, none⟩)) := by
  cbv

/-- A value that is there stays, quotes and further equals signs are kept apart, and a line without a
name ends the seeding. -/
theorem load_of_texts_stopped :
    let environment : Environment := [("A", "0"), ("ENV_FILE", "seed")]
    let after : Environment := [("A", "0"), ("ENV_FILE", "seed"), ("B", "x=y")]
    let row := [("A", "1"), ("B", "x=y"), ("B", "2"), ("ENV_FILE", "other"), ("", "4"), ("C", "5")]
    Holds seeded environment.seedFiles [seedText, usualText] ∧
      load seeded environment = (after, some (.disk ⟨.invalid, none⟩)) ∧
      ∃ done rest, Carries environment row after (some (.disk ⟨.invalid, none⟩)) done rest := by
  intro environment after row
  have files : environment.seedFiles = [.ofString "seed", .ofString ".env"] := by cbv
  have holds : Holds seeded environment.seedFiles [seedText, usualText] := files ▸ holds_seeded
  have assigned : assignments ([seedText, usualText].flatMap linesOf) = row := by cbv
  obtain ⟨-, -, ⟨done, rest, carries⟩, -⟩ := load_of_texts holds
  rw [load_seeded, assigned] at carries
  exact ⟨holds, load_seeded, done, rest, carries⟩

end Rollout.Environment
