import Rollout.Proofs.Environment.Seeding
import Rollout.Proofs.Text.Utf8

/-!
Seed files that were written from pairs.

A pair is written as one line: the name, an equals sign and the value, between double quotes or
alone, with blanks around each of them. Between these lines may stand lines that say nothing, and
every line may end in its own way. Such a file is read back as the pairs that it was written from.
-/

set_option autoImplicit false
set_option relaxedAutoImplicit false

namespace Rollout.Environment

open Text (Strips isBlank)

/-! ### Writing -/

def IsUnbroken (text : List Char) : Prop := '\n' ∉ text ∧ '\r' ∉ text

def IsGap (gap : List Char) : Prop := (∀ c ∈ gap, isBlank c = true) ∧ IsUnbroken gap

def IsBare (p : Char → Bool) (text : List Char) : Prop :=
  (∀ c, text.head? = some c → p c = false) ∧ ∀ c, text.getLast? = some c → p c = false

/-- A name that can be written: it is not empty, it holds no equals sign, line end or null character,
no blank stands at its ends, and it does not start as a comment does. -/
structure IsName (name : String) : Prop where
  filled : name.toList ≠ []
  straight : '=' ∉ name.toList
  unbroken : IsUnbroken name.toList
  unended : '\x00' ∉ name.toList
  bare : IsBare isBlank name.toList
  noComment : name.toList.head? ≠ some '#'

/-- A value that can be written: it holds no line end or null character, and no double quote stands
at its ends. -/
structure IsValue (value : String) : Prop where
  unbroken : IsUnbroken value.toList
  unended : '\x00' ∉ value.toList
  bare : IsBare (· == '"') value.toList

/-- A value as it stands in a line: between double quotes, or alone if no blank stands at its
ends. -/
inductive Shows (value : String) : List Char → Prop
  | quoted : Shows value ('"' :: (value.toList ++ ['"']))
  | alone : IsBare isBlank value.toList → Shows value value.toList

/-- A line that writes a pair, or says nothing: it is a comment, or no equals sign stands in it. -/
inductive WritesLine : List Char → List (String × String) → Prop
  | pair {name value : String} {shown before after lead behind : List Char} :
      IsName name → IsValue value → Shows value shown →
      IsGap before → IsGap after → IsGap lead → IsGap behind →
      WritesLine (before ++ (name.toList ++ (after ++ '=' :: (lead ++ (shown ++ behind)))))
        [(name, value)]
  | comment {gap text : List Char} : IsGap gap → IsUnbroken text →
      WritesLine (gap ++ '#' :: text) []
  | noise {text : List Char} : '=' ∉ text → IsUnbroken text → WritesLine text []

def lineEnds : List (List Char) := [['\n'], ['\r'], ['\r', '\n']]

/-- A text that writes a row of pairs, line by line. -/
inductive Writes : List Char → List (String × String) → Prop
  | last {line : List Char} {row : List (String × String)} : WritesLine line row → Writes line row
  | line {line ending rest : List Char} {row more : List (String × String)} :
      WritesLine line row → ending ∈ lineEnds → Writes rest more →
      Writes (line ++ (ending ++ rest)) (row ++ more)

/-- A path leads to a file of a text that writes a row of pairs, or to nothing, which gives none. -/
inductive Seeds (disk : Disk) (path : Path) : List (String × String) → Prop
  | absent : disk.hasEntry path = .ok false → Seeds disk path []
  | written {text : List Char} {row : List (String × String)} : disk.hasEntry path = .ok true →
      disk.read path = .ok (Text.Utf8.encode text) → Writes text row → Seeds disk path row

section Decidable

instance (text : List Char) : Decidable (IsUnbroken text) := inferInstanceAs (Decidable (_ ∧ _))

instance (gap : List Char) : Decidable (IsGap gap) :=
  decidable_of_iff (gap.all isBlank = true ∧ IsUnbroken gap) (by simp [IsGap])

instance (p : Char → Bool) (text : List Char) : Decidable (IsBare p text) :=
  decidable_of_iff (text.head?.all (!p ·) ∧ text.getLast?.all (!p ·))
    (by simp [IsBare, Option.all_eq_true])

instance (name : String) : Decidable (IsName name) :=
  decidable_of_iff (name.toList ≠ [] ∧ '=' ∉ name.toList ∧ IsUnbroken name.toList ∧
      '\x00' ∉ name.toList ∧ IsBare isBlank name.toList ∧ name.toList.head? ≠ some '#')
    ⟨fun ⟨a, b, c, d, e, f⟩ => ⟨a, b, c, d, e, f⟩, fun ⟨a, b, c, d, e, f⟩ => ⟨a, b, c, d, e, f⟩⟩

instance (value : String) : Decidable (IsValue value) :=
  decidable_of_iff (IsUnbroken value.toList ∧ '\x00' ∉ value.toList ∧ IsBare (· == '"') value.toList)
    ⟨fun ⟨a, b, c⟩ => ⟨a, b, c⟩, fun ⟨a, b, c⟩ => ⟨a, b, c⟩⟩

end Decidable

/-! ### Reading back -/

theorem IsBare.strips {p : Char → Bool} {text : List Char} (bare : IsBare p text)
    (front back : List Char) (before : ∀ c ∈ front, p c = true) (behind : ∀ c ∈ back, p c = true) :
    Strips p (front ++ (text ++ back)) text :=
  ⟨⟨front, back, rfl, before, behind⟩, bare.1, bare.2⟩

private theorem Shows.strips {value : String} {shown : List Char} (valued : IsValue value)
    (shows : Shows value shown) :
    IsBare isBlank shown ∧ Strips (· == '"') shown value.toList := by
  cases shows with
  | quoted =>
    have quote : isBlank '"' = false := by decide
    refine ⟨⟨fun c first => ?_, fun c last => ?_⟩, ?_⟩
    · cases first
      exact quote
    · have same : some '"' = some c := by simpa [List.getLast?_cons] using last
      cases same
      exact quote
    · exact valued.bare.strips ['"'] ['"'] (by simp) (by simp)
  | alone bare =>
    refine ⟨bare, ?_⟩
    have whole := valued.bare.strips [] [] nofun nofun
    rwa [List.nil_append, List.append_nil] at whole

private theorem exists_kept {shown lead behind : List Char} (inked : IsBare isBlank shown)
    (gapLead : IsGap lead) (gapBehind : IsGap behind) :
    ∃ kept back, lead ++ (shown ++ behind) = kept ++ back ∧ (∀ c ∈ back, isBlank c = true) ∧
      Strips isBlank kept shown ∧ ∀ c, ('=' :: kept).getLast? = some c → isBlank c = false := by
  by_cases empty : shown = []
  · subst empty
    refine ⟨[], lead ++ behind, rfl, fun c mem => ?_, ⟨⟨[], [], rfl, nofun, nofun⟩, nofun, nofun⟩, ?_⟩
    · exact (List.mem_append.mp mem).elim (gapLead.1 c) (gapBehind.1 c)
    · intro c last
      cases last
      decide
  · obtain ⟨d, ds, filled⟩ := List.exists_cons_of_ne_nil empty
    refine ⟨lead ++ shown, behind, (List.append_assoc ..).symm, gapBehind.1, ?_, fun c last => ?_⟩
    · have whole := inked.strips lead [] gapLead.1 nofun
      rwa [List.append_nil] at whole
    · refine inked.2 c ?_
      simpa [filled, List.getLast?_cons, List.getLast?_append] using last

private theorem assigns_pair {name value : String} {shown before after lead behind : List Char}
    (named : IsName name) (valued : IsValue value) (shows : Shows value shown)
    (gapBefore : IsGap before) (gapAfter : IsGap after) (gapLead : IsGap lead)
    (gapBehind : IsGap behind) :
    Assigns (before ++ (name.toList ++ (after ++ '=' :: (lead ++ (shown ++ behind))))) name value := by
  obtain ⟨inked, unquoted⟩ := shows.strips valued
  obtain ⟨kept, back, cut, blank, valueStrips, last⟩ := exists_kept inked gapLead gapBehind
  obtain ⟨c, cs, spelled⟩ := List.exists_cons_of_ne_nil named.filled
  have nameStrips : Strips isBlank (name.toList ++ after) name.toList :=
    named.bare.strips [] after nofun gapAfter.1
  have noEquals : '=' ∉ name.toList ++ after := by
    rw [List.mem_append, not_or]
    exact ⟨named.straight, fun inGap => absurd (gapAfter.1 _ inGap) (by decide)⟩
  have first : (name.toList ++ after ++ '=' :: kept).head? = name.toList.head? := by simp [spelled]
  have ends : (name.toList ++ after ++ '=' :: kept).getLast? = ('=' :: kept).getLast? := by
    simp [List.getLast?_append, List.getLast?_cons]
  refine ⟨name.toList ++ after ++ '=' :: kept, name.toList ++ after, kept, shown,
    ⟨⟨before, back, by simp [cut], gapBefore.1, blank⟩, ?_, ?_⟩, ?_, rfl, noEquals, nameStrips,
    valueStrips, unquoted⟩
  · rw [first]
    exact named.bare.1
  · rw [ends]
    exact last
  · rw [first]
    exact named.noComment

private theorem assignment?_comment {gap : List Char} (blank : IsGap gap) (text : List Char) :
    assignment? (gap ++ '#' :: text) = none := by
  have inked : isBlank '#' = false := by decide
  have trimmed : Text.trim (gap ++ '#' :: text) = Text.dropEndWhile isBlank ('#' :: text) := by
    rw [Text.trim, Text.stripWhile, List.dropWhile_append_of_pos blank.1]
    simp [inked]
  have first : (Text.dropEndWhile isBlank ('#' :: text)).head? = some '#' := by
    obtain ⟨back, parts, cut⟩ := Text.dropEndWhile_append_back isBlank ('#' :: text)
    cases kept : Text.dropEndWhile isBlank ('#' :: text) with
    | nil =>
      rw [kept, List.nil_append] at parts
      have sign := cut '#' (parts ▸ List.mem_cons_self)
      rw [inked] at sign
      cases sign
    | cons c cs =>
      rw [kept, List.cons_append] at parts
      rw [(List.cons.inj parts).1]
      rfl
  unfold assignment?
  rw [trimmed]
  exact if_pos first

private theorem assignment?_noise {line : List Char} (none : '=' ∉ line) :
    assignment? line = .none := by
  refine Option.eq_none_iff_forall_ne_some.mpr fun ⟨name, value⟩ made => none ?_
  obtain ⟨core, before, after, inner, stripped, -, parts, -⟩ := assignment?_eq_some_iff.mp made
  obtain ⟨front, back, split, -⟩ := stripped.ends
  simp [split, parts]

theorem WritesLine.assignments_eq {line : List Char} {row : List (String × String)}
    (writes : WritesLine line row) : assignments [line] = row := by
  cases writes with
  | pair named valued shows gapBefore gapAfter gapLead gapBehind =>
    have assigned := assignment?_eq_some_iff.mpr
      (assigns_pair named valued shows gapBefore gapAfter gapLead gapBehind)
    simp only [assignments, List.filterMap_cons, List.filterMap_nil, assigned]
  | comment gap _ => simp only [assignments, List.filterMap_cons, List.filterMap_nil,
      assignment?_comment gap]
  | noise none _ => simp only [assignments, List.filterMap_cons, List.filterMap_nil,
      assignment?_noise none]

theorem IsUnbroken.append {front back : List Char} (first : IsUnbroken front)
    (second : IsUnbroken back) : IsUnbroken (front ++ back) := by
  simpa [IsUnbroken, not_or] using ⟨⟨first.1, second.1⟩, first.2, second.2⟩

theorem IsUnbroken.cons {c : Char} {rest : List Char} (plain : c ≠ '\n' ∧ c ≠ '\r')
    (later : IsUnbroken rest) : IsUnbroken (c :: rest) := by
  simpa [IsUnbroken, not_or, eq_comm] using ⟨⟨plain.1, later.1⟩, plain.2, later.2⟩

theorem WritesLine.unbroken {line : List Char} {row : List (String × String)}
    (writes : WritesLine line row) : IsUnbroken line := by
  cases writes with
  | @pair _ _ shown _ _ _ _ named valued shows gapBefore gapAfter gapLead gapBehind =>
    have inner : IsUnbroken shown := by
      cases shows with
      | quoted => exact .cons (by decide) (valued.unbroken.append (.cons (by decide) ⟨nofun, nofun⟩))
      | alone => exact valued.unbroken
    exact gapBefore.2.append (named.unbroken.append (gapAfter.2.append
      (.cons (by decide) (gapLead.2.append (inner.append gapBehind.2)))))
  | comment gap text => exact gap.2.append (.cons (by decide) text)
  | noise _ text => exact text

theorem assignments_append (front back : List (List Char)) :
    assignments (front ++ back) = assignments front ++ assignments back := List.filterMap_append

private theorem assignments_linesOf_lineFeed (text : List Char) :
    assignments (linesOf ('\n' :: text)) = assignments (linesOf text) := by
  have plain : '\n' ∉ ([] : List Char) := nofun
  have parted : linesOf ('\n' :: text) = [] :: linesOf text := by
    rw [linesOf, Text.unifyLineEnds_cons (by decide), linesOf]
    exact Text.lines_append_lineFeed plain _
  have idle : assignments [[]] = [] := rfl
  rw [parted, ← List.singleton_append, assignments_append, idle, List.nil_append]

private theorem assignments_linesOf_last {line : List Char} (unbroken : IsUnbroken line) :
    assignments (linesOf line) = assignments [line] := by
  have unified : Text.unifyLineEnds line = line := by
    simpa [Text.unifyLineEnds] using Text.unifyLineEnds_append_of_not_mem unbroken.2 []
  rw [linesOf, unified]
  by_cases empty : line = []
  · subst empty
    rfl
  · rw [Text.lines_of_not_mem unbroken.1 empty]

private theorem assignments_linesOf_line {line ending : List Char} (unbroken : IsUnbroken line)
    (ended : ending ∈ lineEnds) (rest : List Char) :
    assignments (linesOf (line ++ (ending ++ rest))) =
      assignments [line] ++ assignments (linesOf rest) := by
  -- Whichever end it has, the line stands in front of a line feed when the line ends are unified.
  have parted : ∀ later, Text.unifyLineEnds (ending ++ rest) = '\n' :: Text.unifyLineEnds later →
      assignments (linesOf (line ++ (ending ++ rest))) =
        assignments [line] ++ assignments (linesOf later) := by
    intro later unified
    rw [linesOf, Text.unifyLineEnds_append_of_not_mem unbroken.2, unified,
      Text.lines_append_lineFeed unbroken.1, ← List.singleton_append, assignments_append, linesOf]
  simp only [lineEnds, List.mem_cons, List.not_mem_nil, or_false] at ended
  rcases ended with rfl | rfl | rfl
  · exact parted rest (Text.unifyLineEnds_cons (by decide) rest)
  · by_cases paired : rest.head? = some '\n'
    · obtain ⟨later, rfl⟩ : ∃ later, rest = '\n' :: later := by
        cases rest with
        | nil => cases paired
        | cons c later =>
          cases paired
          exact ⟨later, rfl⟩
      rw [parted later rfl, assignments_linesOf_lineFeed]
    · refine parted rest ?_
      rw [List.singleton_append, Text.unifyLineEnds]
      · rfl
      · rintro later - rfl
        exact paired rfl
  · exact parted rest rfl

theorem Writes.assignments_eq {text : List Char} {row : List (String × String)}
    (writes : Writes text row) : assignments (linesOf text) = row := by
  induction writes with
  | last line => rw [assignments_linesOf_last line.unbroken, line.assignments_eq]
  | line first ended _ ih =>
    rw [assignments_linesOf_line first.unbroken ended, first.assignments_eq, ih]

private theorem seedAll_of_seeds {disk : Disk} {paths : List Path}
    {rows : List (List (String × String))} (seeds : List.Forall₂ (Seeds disk) paths rows)
    (environment : Environment) :
    seedAll disk environment paths = environment.defineAll rows.flatten := by
  obtain ⟨texts, holds, read⟩ : ∃ texts, Holds disk paths texts ∧
      assignments (texts.flatMap linesOf) = rows.flatten := by
    induction seeds with
    | nil => exact ⟨[], .nil, rfl⟩
    | cons first _ ih =>
      obtain ⟨texts, holds, read⟩ := ih
      cases first with
      | absent missing => exact ⟨texts, .absent missing holds, read⟩
      | @written text row there held writes =>
        refine ⟨text :: texts, .present there held (Text.Utf8.decodeFile_encode text) holds, ?_⟩
        rw [List.flatMap_cons, assignments_append, writes.assignments_eq, read, List.flatten_cons]
  rw [seedAll_of_holds holds, read]

theorem Writes.not_halts {text : List Char} {row : List (String × String)}
    (writes : Writes text row) {entry : String × String} (mem : entry ∈ row)
    (defined : Environment) : ¬Halts defined entry := by
  have single : ∀ {line row}, WritesLine line row → entry ∈ row → ¬Halts defined entry := by
    rintro line row first mem ⟨-, bad⟩
    cases first with
    | pair named valued =>
      cases List.mem_singleton.mp mem
      rcases bad with inName | inValue | empty
      · exact named.unended inName
      · exact valued.unended inValue
      · exact named.filled (String.toList_eq_nil_iff.mpr empty)
    | comment => cases mem
    | noise => cases mem
  induction writes with
  | last line => exact single line mem
  | line first _ _ ih => exact (List.mem_append.mp mem).elim (single first) ih

private theorem not_halts_of_seeds {disk : Disk} {paths : List Path}
    {rows : List (List (String × String))} (seeds : List.Forall₂ (Seeds disk) paths rows)
    {entry : String × String} (mem : entry ∈ rows.flatten) (defined : Environment) :
    ¬Halts defined entry := by
  induction seeds with
  | nil => cases mem
  | cons first _ ih =>
    rw [List.flatten_cons, List.mem_append] at mem
    rcases mem with here | later
    · cases first with
      | absent => cases here
      | written _ _ writes => exact writes.not_halts here defined
    · exact ih later

/-- Files that were written from pairs whose names are not defined define exactly these names, each
with the value that is listed first, as it was written. -/
theorem load_of_written {disk : Disk} {environment : Environment}
    {rows : List (List (String × String))}
    (seeds : List.Forall₂ (Seeds disk) environment.seedFiles rows)
    (fresh : ∀ name ∈ Entries.names rows.flatten, environment.get? name = none) :
    let row := rows.flatten
    let after := (load disk environment).1
    (load disk environment).2 = none ∧ environment <+: after ∧
      (∀ front name value back, row = front ++ (name, value) :: back →
        name ∉ Entries.names front → after.get? name = some value) ∧
      ∀ name, name ∉ Entries.names row → after.get? name = environment.get? name := by
  intro row after
  have run : load disk environment = environment.defineAll row := seedAll_of_seeds seeds environment
  obtain ⟨done, rest, carries⟩ := exists_carries environment row
  rw [← run] at carries
  obtain ⟨rfl, unharmed⟩ : rest = [] ∧ (load disk environment).2 = none := by
    rcases carries.ending with ends | ⟨entry, more, split, halts, -⟩
    · exact ends
    · have mem : entry ∈ row := by simp [carries.parts, split]
      exact absurd halts (not_halts_of_seeds seeds mem _)
  obtain rfl : row = done := by rw [carries.parts, List.append_nil]
  refine ⟨unharmed, carries.kept, fun front name value back split first => ?_, fun name unnamed => ?_⟩
  · have new : environment.get? name = none := fresh name (by simp [row, split, Entries.names])
    rw [carries.get?, new, split, Entries.get?_append, Entries.get?_eq_none_iff.mpr first]
    simp [Entries.get?]
  · rw [carries.get?, Entries.get?_eq_none_iff.mpr unnamed, Option.or_none]

private def writtenText : List Char :=
  "# C=0".toList ++ (['\r', '\n'] ++ ("\tA B \u00A0= \"  x=\"y\" # \" ".toList ++ (['\r'] ++
    ([] ++ (['\n'] ++ ("A B=2".toList ++ (['\n'] ++ "C=d\"e\u2028f".toList)))))))

private def writtenRow : List (String × String) :=
  [("A B", "  x=\"y\" # "), ("A B", "2"), ("C", "d\"e\u2028f")]

private theorem writes_written : Writes writtenText writtenRow := by
  have named : IsName "A B" ∧ IsName "C" := by decide
  have valued : IsValue "  x=\"y\" # " ∧ IsValue "2" ∧ IsValue "d\"e\u2028f" := by
    decide +kernel
  have bare : IsBare isBlank "2".toList ∧ IsBare isBlank "d\"e\u2028f".toList := by decide
  have gaps : IsGap ['\t'] ∧ IsGap [' ', '\u00A0'] ∧ IsGap [' '] ∧ IsGap [] := by decide
  obtain ⟨tab, wide, space, none⟩ := gaps
  have comment : WritesLine "# C=0".toList [] :=
    @WritesLine.comment [] " C=0".toList none (by decide)
  have empty : WritesLine [] [] := .noise nofun (by decide)
  have first : WritesLine "\tA B \u00A0= \"  x=\"y\" # \" ".toList [("A B", "  x=\"y\" # ")] :=
    .pair named.1 valued.1 .quoted tab wide space space
  have second : WritesLine "A B=2".toList [("A B", "2")] :=
    .pair named.1 valued.2.1 (.alone bare.1) none none none none
  have third : WritesLine "C=d\"e\u2028f".toList [("C", "d\"e\u2028f")] :=
    .pair named.2 valued.2.2 (.alone bare.2) none none none none
  exact .line comment (by decide) (.line first (by decide) (.line empty (by decide)
    (.line second (by decide) (.last third))))

/-- The usual file, with a comment, an empty line between a carriage return and a line feed, and a
name that is listed twice, is read back; what was defined before stays. -/
theorem load_of_written_marked :
    let environment : Environment := [("PATH", "/bin")]
    let disk : Disk := ⟨[([".env"], .file (Text.Utf8.encode writtenText) 0o644)], []⟩
    let after := (load disk environment).1
    List.Forall₂ (Seeds disk) environment.seedFiles [writtenRow] ∧
      (∀ name ∈ Entries.names [writtenRow].flatten, environment.get? name = none) ∧
      after.get? "A B" = some "  x=\"y\" # " ∧ after.get? "C" = some "d\"e\u2028f" ∧
      after.get? "PATH" = some "/bin" := by
  intro environment disk after
  have files : environment.seedFiles = [.ofString ".env"] := rfl
  have there : disk.hasEntry (.ofString ".env") = .ok true := by cbv
  have held : disk.read (.ofString ".env") = .ok (Text.Utf8.encode writtenText) := by cbv
  have seeds : List.Forall₂ (Seeds disk) environment.seedFiles [writtenRow] :=
    files ▸ .cons (.written there held writes_written) .nil
  have fresh : ∀ name ∈ Entries.names [writtenRow].flatten, environment.get? name = none := by decide
  obtain ⟨-, -, defined, kept⟩ := load_of_written seeds fresh
  exact ⟨seeds, fresh, defined [] _ _ _ rfl List.not_mem_nil,
    defined (writtenRow.take 2) _ _ [] rfl (by decide), kept "PATH" (by decide)⟩

end Rollout.Environment
