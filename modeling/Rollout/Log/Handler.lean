import Rollout.Log.Thing.Order

/-!
Handlers of log records.

A handler takes the records that are weighty enough and pass its filters. It writes each as a line,
or it holds records and hands them on together; some handlers do nothing that can be seen.
-/

set_option autoImplicit false
set_option relaxedAutoImplicit false

namespace Rollout.Log

inductive Target
  | nowhere
  | handler (number : Nat)
  | unusable (kind : String)
  deriving DecidableEq, Repr

/-- Records that are held until there are enough. -/
structure Store where
  capacity : Thing
  weight? : Option Thing
  target : Target
  held : List Record

inductive Work
  | pass
  | write (sink : Sink)
  | bare
  | blocked (fault : Fault)
  | hold (store : Store)
  | foreign (kind : String)

structure Handler where
  weight : Thing
  layout : Layout
  filters : List Filter
  ending? : Option String
  work : Work

namespace Handler

def plain (work : Work) : Handler := ⟨.whole 0, .message, [], some "\n", work⟩

/-- A record as a handler writes it; the fault that it shows has a line of its own. -/
def written? (handler : Handler) (wording : Wording) (record : Record) : Option String := do
  let ending ← handler.ending?
  let line ← handler.layout.line? wording record
  match record.message.cause? with
  | none => return line ++ ending
  | some fault =>
    return line ++ (if line.endsWith "\n" then "" else "\n") ++ wording.trace fault ++ ending

end Handler

def isBelow (name above : String) : Bool :=
  above.isEmpty || name == above || (above ++ ".").toList.isPrefixOf name.toList

def Filter.passes (record : Record) : Filter → Except Misuse Bool
  | .below name => .ok (isBelow record.logger name)
  | .unusable kind => .error (.notSoughtText kind)

def passesAll (filters : List Filter) (record : Record) : Except Misuse Bool :=
  match filters with
  | [] => .ok true
  | filter :: rest => do if ← filter.passes record then passesAll rest record else return false

end Rollout.Log
