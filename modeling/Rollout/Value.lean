import Rollout.Calendar
import Rollout.Number.Numeral
import Rollout.Number.Shortest
import Rollout.Text.Codes

/-!
Values of plan files and settings files.

A value is what a document can hold: scalars, lists, sets, pairs and mappings whose entries keep the
order of their first appearance. Every value has a shown text, which is the text itself for a text,
and a quoted text, in which texts stand between quotes; the members of a collection are quoted.

A collection may lie in itself. Such a collection is a knot with a mark, and the mark stands for it
wherever it lies in itself. A knot is opened before its members are looked at, so that they stand
alone.
-/

set_option autoImplicit false
set_option relaxedAutoImplicit false

namespace Rollout

open Number (Binary64)

inductive Value
  | null
  | bool (b : Bool)
  | int (i : Int)
  | float (x : Binary64)
  | text (s : String)
  | codes (ns : Text.Codes)
  | bytes (bs : List UInt8)
  | date (d : Date)
  | moment (m : Moment)
  | list (items : List Value)
  | pair (first second : Value)
  | set (items : List Value)
  | map (entries : List (Value × Value))
  | knot (mark : Nat) (body : Value)
  | again (mark : Nat)

namespace Value

instance : Inhabited Value := ⟨.null⟩

/-- Whether a value counts as given: null, false, zero and everything empty do not. -/
def isGiven : Value → Bool
  | .null => false
  | .bool b => b
  | .int i => i != 0
  | .float x => !x.isZero
  | .text s => !s.isEmpty
  | .codes ns => !ns.isEmpty
  | .bytes bs => !bs.isEmpty
  | .list items => !items.isEmpty
  | .set items => !items.isEmpty
  | .map entries => !entries.isEmpty
  | .knot _ body => body.isGiven
  | .date _ | .moment _ | .pair _ _ | .again _ => true

private def wholeOf? : Value → Option Int
  | .bool b => some (if b then 1 else 0)
  | .int i => some i
  | .float x => x.toInt?
  | _ => none

/-- Whether two scalars are the same key. Numbers are compared by value, so that true, one and the
float one are one key and what is no number is never the same; collections are never keys. -/
def sameKey (a b : Value) : Bool :=
  match wholeOf? a, wholeOf? b with
  | some i, some j => i == j
  | none, none =>
    match a, b with
    | .null, .null => true
    | .float x, .float y => x.beq y
    | .text s, .text t => s == t
    | .codes s, .codes t => s == t
    | .bytes s, .bytes t => s == t
    | .date d, .date e => d == e
    | .moment m, .moment n => m.same n
    | _, _ => false
  | _, _ => false

def isKey : Value → Bool
  | .list _ | .set _ | .map _ | .knot _ _ | .again _ => false
  | _ => true

/-- Set an entry: in its old place if its key is there, at the end otherwise. -/
def put (entries : List (Value × Value)) (key value : Value) : List (Value × Value) :=
  if entries.any (·.1.sameKey key) then
    entries.map fun entry => if entry.1.sameKey key then (entry.1, value) else entry
  else entries ++ [(key, value)]

/-- The mapping of entries in order; a later entry with the same key takes the earlier one's
place. -/
def ofEntries (entries : List (Value × Value)) : List (Value × Value) :=
  entries.foldl (fun acc entry => put acc entry.1 entry.2) []

def get? (entries : List (Value × Value)) (name : String) : Option Value :=
  (entries.find? (·.1.sameKey (.text name))).map (·.2)

def Distinct (entries : List (Value × Value)) : Prop :=
  entries.Pairwise fun entry other => entry.1.sameKey other.1 = false

section Names

variable {key v : Value} {entries : List (Value × Value)} {name : String}

theorem sameKey_text_iff : key.sameKey (.text name) = true ↔ key = .text name := by
  cases key with
  | float x => cases whole : x.toInt? <;> simp [sameKey, wholeOf?, whole]
  | _ => simp [sameKey, wholeOf?]

theorem get?_cons_self : get? ((.text name, v) :: entries) name = some v := by
  simp [get?, sameKey_text_iff]

theorem get?_cons_of_ne (other : key ≠ .text name) :
    get? ((key, v) :: entries) name = get? entries name := by
  simp [get?, sameKey_text_iff, other]

theorem get?_eq_none_iff : get? entries name = none ↔ ∀ entry ∈ entries, entry.1 ≠ .text name := by
  simp [get?, sameKey_text_iff]

theorem get?_append (front back : List (Value × Value)) :
    get? (front ++ back) name = (get? front name).or (get? back name) := by
  simp only [get?, List.find?_append]
  cases front.find? (·.1.sameKey (.text name)) <;> rfl

theorem Distinct.get?_eq_some_iff (distinct : Distinct entries) :
    get? entries name = some v ↔ (.text name, v) ∈ entries := by
  induction entries with
  | nil => simp [get?]
  | cons entry rest ih =>
    obtain ⟨other, w⟩ := entry
    obtain ⟨apart, distinctRest⟩ := List.pairwise_cons.mp distinct
    by_cases here : other = .text name
    · subst here
      have later : (.text name, v) ∉ rest := fun mem => by
        have same := apart _ mem
        rw [sameKey_text_iff.mpr rfl] at same
        cases same
      rw [get?_cons_self]
      simp [later, eq_comm]
    · rw [get?_cons_of_ne here, ih distinctRest]
      simp [Ne.symm here]

theorem Distinct.get?_eq_none (distinct : Distinct ((.text name, v) :: entries)) :
    get? entries name = none := by
  rw [get?_eq_none_iff]
  intro entry mem twice
  have apart := (List.pairwise_cons.mp distinct).1 entry mem
  rw [twice, sameKey_text_iff.mpr rfl] at apart
  cases apart

end Names

private def quoteZone : Option Int → List String
  | none => []
  | some 0 => ["tzinfo=datetime.timezone.utc"]
  | some seconds => ["tzinfo=datetime.timezone(" ++ Calendar.spanText seconds ++ ")"]

private def quoteMoment (m : Moment) : String :=
  let fields : List Nat :=
    [m.date.year, m.date.month, m.date.day, m.hour, m.minute] ++
      (if m.second = 0 ∧ m.microsecond = 0 then []
       else m.second :: (if m.microsecond = 0 then [] else [m.microsecond]))
  "datetime.datetime(" ++ ", ".intercalate (fields.map toString ++ quoteZone m.offset) ++ ")"

mutual

def fill (mark : Nat) (whole : Value) : Value → Value
  | .again other => if other = mark then whole else .again other
  | .knot other body =>
    if other = mark then .knot other body else .knot other (fill mark whole body)
  | .list items => .list (fillAll mark whole items)
  | .set items => .set (fillAll mark whole items)
  | .pair first second => .pair (fill mark whole first) (fill mark whole second)
  | .map entries => .map (fillEntries mark whole entries)
  | v => v

def fillAll (mark : Nat) (whole : Value) : List Value → List Value
  | [] => []
  | v :: vs => fill mark whole v :: fillAll mark whole vs

def fillEntry (mark : Nat) (whole : Value) : Value × Value → Value × Value
  | (key, value) => (key, fill mark whole value)

def fillEntries (mark : Nat) (whole : Value) : List (Value × Value) → List (Value × Value)
  | [] => []
  | e :: es => fillEntry mark whole e :: fillEntries mark whole es

end

/-- The collection that a knot is, with members that stand alone; other values are left as they
are. -/
def opened : Value → Value
  | .knot mark body => fill mark (.knot mark body) body
  | v => v

def dots : Value → String
  | .map _ => "\x7b...\x7d"
  | .set _ => "set(...)"
  | .pair _ _ => "(...)"
  | _ => "[...]"

def dotsOf (around : List (Nat × String)) (mark : Nat) : Option String :=
  (around.find? (·.1 == mark)).map (·.2)

mutual

def quoteIn (around : List (Nat × String)) : Value → String
  | .null => "None"
  | .bool b => if b then "True" else "False"
  | .int i => toString i
  | .float x => x.toText
  | .text s => Text.quoted s
  | .codes ns => ns.quoted
  | .bytes bs => Text.quotedBytes bs
  | .date d => s!"datetime.date({d.year}, {d.month}, {d.day})"
  | .moment m => quoteMoment m
  | .list items => "[" ++ ", ".intercalate (quoteAll around items) ++ "]"
  | .pair first second => "(" ++ quoteIn around first ++ ", " ++ quoteIn around second ++ ")"
  | .set items =>
    if items.isEmpty then "set()"
    else "\x7b" ++ ", ".intercalate (quoteAll around items) ++ "\x7d"
  | .map entries => "\x7b" ++ ", ".intercalate (quoteEntries around entries) ++ "\x7d"
  | .knot mark body => (dotsOf around mark).getD (quoteIn ((mark, dots body) :: around) body)
  | .again mark => (dotsOf around mark).getD "..."

def quoteAll (around : List (Nat × String)) : List Value → List String
  | [] => []
  | v :: vs => quoteIn around v :: quoteAll around vs

def quoteEntry (around : List (Nat × String)) : Value × Value → String
  | (key, value) => quoteIn around key ++ ": " ++ quoteIn around value

def quoteEntries (around : List (Nat × String)) : List (Value × Value) → List String
  | [] => []
  | e :: es => quoteEntry around e :: quoteEntries around es

end

def quote (v : Value) : String := quoteIn [] v

def shown : Value → String
  | .text s => s
  | .codes ns => ns.text
  | .date d => d.text
  | .moment m => m.text " "
  | v => quote v

example : quote (.map [(.bool true, .list [.null, .text "it's"])]) =
    "\x7bTrue: [None, \"it's\"]\x7d" := by decide +kernel

example : quote (.knot 0 (.list [.null, .again 0])) = "[None, [...]]" := by decide +kernel

end Value

end Rollout
