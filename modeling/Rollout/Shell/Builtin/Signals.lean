import Rollout.Shell.Builtin.Basic

/-!
The commands of the shell that act on signals and on children, and what signals do to a process.
-/

set_option autoImplicit false
set_option relaxedAutoImplicit false

namespace Rollout.Shell.Builtin

open Machine (Job Process Channel Child Halt)

def trapName? (word : String) : Option String :=
  let named (n : Nat) : Option String :=
    if n = 0 then some "EXIT" else Machine.signalNames[n - 1]?
  match word.toNat? with
  | some n => if word.all Char.isDigit then named n else none
  | none =>
    let upper := word.toUpper
    if upper == "EXIT" || Machine.signalNames.contains upper then some upper else none

/-- Set what is done under conditions; nothing where there is no action. -/
def setTrap (action : Option String) (words : List String) : Job Nat := do
  for word in words do
    match trapName? word with
    | none =>
      Job.complain s!"trap: {word}: bad trap"
      return 1
    | some name =>
      Job.alter fun process =>
        let others := process.traps.filter (·.1 != name)
        { process with
          traps := match action with
            | some action => others ++ [(name, action)]
            | none => others }
  return 0

def trapOrder (name : String) : Nat :=
  if name == "EXIT" then 0 else (Machine.signalNames.idxOf name) + 1

def trap (words : List String) : Job Nat := do
  match if words.head? = some "--" then words.drop 1 else words with
  | [] =>
    let traps := (← Job.process).traps.mergeSort fun a b => trapOrder a.1 ≤ trapOrder b.1
    outputText "trap" ("".intercalate (traps.map fun (name, action) =>
      "trap -- " ++ requoted action ++ s!" {name}\n"))
  | [word] => setTrap none [word]
  | "-" :: words => setTrap none words
  | action :: words =>
    if !action.isEmpty && action.all Char.isDigit then setTrap none (action :: words)
    else setTrap (some action) words

def isDeaf (process : Process) (signal : Nat) : Bool :=
  signal != Machine.killSignal &&
    match Machine.signalNames[signal - 1]? with
    | some name => (process.traps.get? name) = some ""
    | none => false

def action? (process : Process) (signal : Nat) : Option String :=
  if signal = Machine.killSignal then none
  else (Machine.signalNames[signal - 1]?).bind fun name => process.traps.get? name

def nextSignal? (time : Nat) : Job (Option (Nat × Nat)) := do
  let state ← get
  let mine := state.commons.signals.filter fun (target, sent, signal) =>
    target = state.process.number && sent ≤ time &&
      !(Machine.idleSignals.contains signal && (action? state.process signal).isNone) &&
      !isDeaf state.process signal
  return (mine.mergeSort fun a b => a.2.1 ≤ b.2.1).head?.map (·.2)

def takeSignal (sent signal : Nat) : Job Unit := do
  let number := (← Job.process).number
  Job.alterCommons fun m =>
    { m with signals := m.signals.filter (· != (number, sent, signal)) }

def succumb (signal : Nat) : Job Unit := do
  if Machine.haltSignals.contains signal then Job.waitUntil Machine.forever
  else throw (.gone (.killed signal))

/-- Wait until a time, unless a signal ends the process before. If `breaks` says so, a signal that
is trapped ends the waiting; it is the answer. -/
def suspend (breaks : Bool) (time : Nat) : Job (Option Nat) := do
  match ← nextSignal? time with
  | none =>
    Job.waitUntil time
    return none
  | some (sent, signal) =>
    if (action? (← Job.process) signal).isSome then
      Job.waitUntil (if breaks then sent else time)
      return if breaks then some signal else none
    else
      Job.waitUntil sent
      takeSignal sent signal
      succumb signal
      Job.waitUntil time
      return none

def statusOf : Ending → Nat
  | .exited status => status
  | .killed signal => 128 + signal
  | ending => ending.status.toNat

def tellOf (child : Child) : Job Unit :=
  match child.ending with
  | .killed signal =>
    match Machine.signalWords? signal with
    | some words => Job.complain words
    | none => return ()
  | _ => return ()

def waitFor (word : String) : Job Nat := do
  let process ← Job.process
  let number ←
    match word.toList with
    | '%' :: digits =>
      let n := ((String.ofList digits).toNat?).getD process.children.length
      pure (((process.children[n - 1]?).map (·.number)).getD 0)
    | _ => natural "wait" word
  match process.children.find? (·.number = number) with
  | none => if word.startsWith "%" then raise s!"wait: No such job: {word}" else return 127
  | some child =>
    if let some signal ← suspend true child.ended then return 128 + signal
    tellOf child
    Job.alter fun process =>
      { process with children := process.children.filter (·.number != number) }
    return statusOf child.ending

/-- Wait for children: for all of them, if none is named. -/
def wait (words : List String) : Job Nat := do
  match words with
  | [] =>
    let process ← Job.process
    let last := process.children.foldl (fun time child => max time child.ended) process.time
    if let some signal ← suspend true last then return 128 + signal
    Job.alter ({ · with children := [] })
    return 0
  | words => words.foldlM (fun _ word => waitFor word) 0

def strike (signal number : Nat) : Job Unit := do
  let now := (← Job.process).time
  Job.alter fun process =>
    { process with
      children := process.children.map fun child =>
        if child.number = number && now < child.ended then
          { child with ended := now, ending := .killed signal }
        else child }
  Job.alterCommons (·.cutOff number now)

def spares (signal : Nat) : Bool := signal = 0 || signal = 2 || signal = 3 ||
  Machine.idleSignals.contains signal || Machine.haltSignals.contains signal

def send (signal number : Nat) : Job Unit := do
  let process ← Job.process
  if signal != 0 then
    Job.alterCommons fun m => { m with signals := m.signals ++ [(number, process.time, signal)] }

/-- Send a signal to the process of a word; the answer tells whether there is one. -/
def sendTo (signal : Nat) (word : String) : Job Bool := do
  let process ← Job.process
  let everyone := word == "0" || word == s!"-{process.shell}"
  let child := process.children.find? fun child =>
    toString child.number == word || s!"-{child.number}" == word
  let known := (word.toNat?).getD 0
  if everyone then
    for child in process.children do
      if !spares signal && !isDeaf process signal then strike signal child.number
    (process.number :: process.above).forM (send signal)
    return true
  else match child with
    | some child =>
      if !spares signal then strike signal child.number
      return true
    | none =>
      if known = process.number || known = process.shell || process.above.contains known then
        send signal known
        return true
      else return false

/-- The signal that the first words of a command ask for, and the words behind them. -/
def signalOf (words : List String) : Except String (Nat × List String) :=
  match words with
  | "-s" :: name :: rest =>
    match Machine.signal? name with
    | some signal => .ok (signal, rest)
    | none => .error s!"kill: invalid signal number or name: {name}"
  | "--" :: rest => .ok (Machine.endSignal, rest)
  | word :: rest =>
    if word.startsWith "-" && word.length > 1 then
      match Machine.signal? (word.drop 1).toString with
      | some signal => .ok (signal, if rest.head? = some "--" then rest.drop 1 else rest)
      | none => .error ("kill: Illegal option " ++ (word.take 2).toString)
    else .ok (Machine.endSignal, word :: rest)
  | [] => .ok (Machine.endSignal, [])

def kill (words : List String) : Job Nat := do
  match words with
  | ["-l"] => outputText "kill" ("".intercalate (("0" :: Machine.signalNames).map (· ++ "\n")))
  | ["-l", word] =>
    match word.toNat? with
    | none => warn s!"kill: Illegal number: {word}" 2
    | some n =>
      let n := if n > 128 then n - 128 else n
      match Machine.signalNames[n - 1]? with
      | some name => outputText "kill" (name ++ "\n")
      | none => warn s!"kill: invalid signal number or exit status: {word}" 2
  | words =>
    match signalOf words with
    | .error text => warn text 2
    | .ok (_, []) =>
      complain "kill: Usage: kill [-s sigspec | -signum | -sigspec] [pid | job]... or"
      Job.complain "kill -l [exitstatus]"
      return 2
    | .ok (signal, targets) =>
      let process ← Job.process
      targets.foldlM (fun status word => do
        let word ←
          match word.toList with
          | '%' :: digits =>
            let n := ((String.ofList digits).toNat?).getD process.children.length
            pure (((process.children[n - 1]?).map fun child => toString child.number).getD "")
          | _ => pure word
        let digits := if word.startsWith "-" then (word.drop 1).toString else word
        if word.isEmpty then
          complain "kill: No such process"
          Job.complain ""
          return 1
        else if !digits.all Char.isDigit then warn s!"kill: Illegal number: {word}" 2
        else if ← sendTo signal word then return status
        else
          complain "kill: No such process"
          Job.complain ""
          return 1) 0

end Rollout.Shell.Builtin
