import Rollout.Log.Layout.Brace
import Rollout.Log.Layout.Dollar
import Rollout.Log.Layout.Percent

/-!
Layouts of log lines.

A layout is a text with fields of the record in it, in one of three styles: with percent signs, with
braces, or with dollar signs. A layout is checked before it is used: one that shows no field is
refused.
-/

set_option autoImplicit false
set_option relaxedAutoImplicit false

namespace Rollout.Log

inductive Style
  | percent
  | brace
  | dollar
  deriving DecidableEq, Repr

namespace Style

def mark : Style → String
  | .percent => "%"
  | .brace => "\x7b"
  | .dollar => "$"

def ofMark? (mark : String) : Option Style :=
  [Style.percent, .brace, .dollar].find? fun style => style.mark == mark

def usual : Style → String
  | .percent => "%(message)s"
  | .brace => "\x7bmessage\x7d"
  | .dollar => "$\x7bmessage\x7d"

end Style

structure Layout where
  style : Style
  text? : Option String
  spare : List (String × Value)

namespace Layout

/-- Why a layout is refused. -/
inductive Fault
  | percent (text : String)
  | brace (fault : Brace.Fault)
  | dollar (fault : Dollar.Fault)
  deriving DecidableEq, Repr

def Fault.message : Fault → String
  | .percent text => s!"Invalid format '{text}' for '%' style"
  | .brace fault => s!"invalid format: {fault.message}"
  | .dollar fault => s!"invalid format: {fault.message}"

def check (style : Style) (text : String) : Except Fault Unit :=
  match style with
  | .percent => if Percent.showsField text.toList then .ok () else .error (.percent text)
  | .brace => (Brace.check text).mapError .brace
  | .dollar => (Dollar.check text).mapError .dollar

def message : Layout := ⟨.percent, some Style.percent.usual, []⟩

def fieldsOf (layout : Layout) (wording : Wording) (record : Record) : Fields :=
  let own := fields wording record
  let spare := layout.spare.map fun entry => (entry.1, Datum.value entry.2)
  fun name => (own.get? name).or (Entries.get? name spare)

/-- The line of a record; none where the layout does not suit it. -/
def line? (layout : Layout) (wording : Wording) (record : Record) : Option String := do
  let text ← layout.text?
  let fields := layout.fieldsOf wording record
  let line ←
    match layout.style with
    | .percent => Percent.line? wording fields text
    | .brace => Brace.line? wording fields text
    | .dollar => Dollar.line? wording fields text
  return String.ofList line

private def plainWords : Wording := ⟨"now", Rollout.Fault.message, Rollout.Fault.message⟩

example : (line? ⟨.percent, some "%(levelname)-8s|%(levelno)05d", []⟩ plainWords
    (.of "a" (.rewardsDeployed "p"))) = some "INFO    |00020" := by decide +kernel

example : (line? ⟨.brace, some "\x7blevelno:^6\x7d|\x7bname!r:>4\x7d", []⟩ plainWords
    (.of "a" (.rewardsDeployed "p"))) = some "  20  | 'a'" := by decide +kernel

example : (check .percent "no field").toOption = none := by decide +kernel

end Layout

end Rollout.Log
