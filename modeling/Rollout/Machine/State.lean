import Rollout.Command
import Rollout.Entries
import Rollout.Machine.Image
import Rollout.Machine.Signal
import Rollout.Shell.Script

/-!
A machine on which processes run, and one process.

A process has a clock of its own, which stands still except where the process waits, so its output
and its end are known with their times. Its channels lead to the output that is kept, to the streams
of the program that started it, to files, to pipes or nowhere. A pipe is read after it was written;
what is read from it carries the times of its writing.
-/

set_option autoImplicit false
set_option relaxedAutoImplicit false

namespace Rollout.Machine

def forever : Nat := Nat.pow 10 30

inductive Channel
  | result
  | out
  | err
  | nothing
  | zeros
  | input (number : Nat)
  | pipe (number : Nat)
  | file (place : Place)
  deriving DecidableEq, Repr

structure Write where
  time : Nat
  process : Nat
  channel : Channel
  bytes : List UInt8

/-- What can be read from a channel: pieces with their times, and the time at which nothing more
comes. -/
structure Input where
  pieces : List (Nat × List UInt8)
  ended : Nat
  size : Option Nat

structure Commons where
  disk : Disk
  writes : List Write
  holds : List (Nat × Channel × Nat)
  inputs : List (Nat × Input)
  pipes : List (Nat × List (Nat × List UInt8))
  signals : List (Nat × Nat × Nat)
  next : Nat
  deadline : Nat

structure Variable where
  value : Option String
  shared : Bool
  fixed : Bool

/-- A process that was started and not yet waited for. -/
structure Child where
  number : Nat
  ended : Nat
  ending : Ending

structure Process where
  number : Nat
  time : Nat
  here : Place
  known : String
  channels : List (Nat × Channel)
  store : Entries Variable
  shell : Nat
  above : List Nat
  name : String
  arguments : List String
  functions : Entries Shell.Script
  kept : Option (List (String × Option Variable))
  status : Nat
  captured : Bool
  traps : Entries String
  flags : List Char
  children : List Child
  lastChild : Option Nat
  line : Nat
  offset : Nat
  mask : Nat
  loops : Nat
  tested : Bool

structure State where
  commons : Commons
  process : Process

/-- Why a process does not go on with the next command. -/
inductive Halt
  | leave (loops : Nat)
  | again (loops : Nat)
  | back
  | failed
  | gone (ending : Ending)

abbrev Job (α : Type) := ExceptT Halt (StateM State) α

namespace Commons

def fresh (commons : Commons) : Nat × Commons :=
  (commons.next, { commons with next := commons.next + 1 })

def write (commons : Commons) (process time : Nat) (channel : Channel) (bytes : List UInt8) :
    Commons :=
  match channel with
  | .result | .out | .err =>
    { commons with writes := ⟨time, process, channel, bytes⟩ :: commons.writes }
  | .pipe number =>
    let old := ((commons.pipes.find? (·.1 = number)).map (·.2)).getD []
    { commons with
      pipes := (number, (time, bytes) :: old) :: commons.pipes.filter (·.1 != number) }
  | .file place =>
    match commons.disk.entryAt place with
    | some (.file old mode) =>
      { commons with disk := commons.disk.put place (.file (old ++ bytes) mode) }
    | _ => commons
  | .nothing | .zeros | .input _ => commons

def input (commons : Commons) (number : Nat) : Input :=
  ((commons.inputs.find? (·.1 = number)).map (·.2)).getD ⟨[], 0, none⟩

def setInput (commons : Commons) (number : Nat) (input : Input) : Commons :=
  { commons with inputs := (number, input) :: commons.inputs.filter (·.1 != number) }

def written (commons : Commons) (number : Nat) : List (Nat × List UInt8) :=
  (((commons.pipes.find? (·.1 = number)).map (·.2)).getD []).reverse

def heldUntil (commons : Commons) (channel : Channel) : Nat :=
  commons.holds.foldl (fun latest (_, held, time) =>
    if held = channel then max latest time else latest)
    0

def turn (commons : Commons) (number : Nat) : Commons :=
  { commons.setInput number
      ⟨commons.written number, commons.heldUntil (.pipe number), none⟩ with
    pipes := commons.pipes.filter (·.1 != number) }

def hold (commons : Commons) (process time : Nat) (channels : List Channel) : Commons :=
  let held := channels.filter fun | .result | .pipe _ => true | _ => false
  { commons with holds := held.map (fun channel => (process, channel, time)) ++ commons.holds }

def cutOff (commons : Commons) (process time : Nat) : Commons :=
  { commons with
    writes := commons.writes.filter fun w => w.process != process || w.time ≤ time
    holds := commons.holds.map fun (number, channel, until') =>
      (number, channel, if number = process then min until' time else until') }

end Commons

namespace Process

def channel? (process : Process) (number : Nat) : Option Channel :=
  (process.channels.find? (·.1 = number)).map (·.2)

def value? (process : Process) (name : String) : Option String :=
  (process.store.get? name).bind (·.value)

/-- The mode of what the process makes, where it asks for one. -/
def modeFor (process : Process) (mode : Nat) : Nat := mode - Nat.land mode process.mask

def environment (process : Process) : Entries String :=
  process.store.filterMap fun (name, v) => if v.shared then v.value.map (name, ·) else none

/-- Set a variable; programs see it as they did before. -/
def set (process : Process) (name value : String) : Process :=
  let shared := ((process.store.get? name).map (·.shared)).getD false
  { process with store := process.store.put name ⟨some value, shared, false⟩ }

def directory (process : Process) : String := "/" ++ "/".intercalate process.here

end Process

namespace Job

variable {α : Type}

def process : Job Process := return (← get).process

def alter (f : Process → Process) : Job Unit :=
  modify fun s => { s with process := f s.process }

def alterCommons (f : Commons → Commons) : Job Unit :=
  modify fun s => { s with commons := f s.commons }

def answer (status : Nat) : Job Unit := alter ({ · with status := status })

def quit (status : Nat) : Job α := throw (.gone (.exited status))

/-- Write to a channel; the answer is whether the channel is open. -/
def write (channel : Nat) (bytes : List UInt8) : Job Bool := do
  let process ← process
  match process.channel? channel with
  | none => return false
  | some target =>
    if !bytes.isEmpty then
      alterCommons (·.write process.number process.time target bytes)
    return true

def say (channel : Nat) (text : String) : Job Unit := do
  let _ ← write channel (Text.Utf8.encode text.toList)

def complain (text : String) : Job Unit := say 2 (text ++ "\n")

/-- Wait until a time; no process lives longer than the machine counts. -/
def waitUntil (time : Nat) : Job Unit := do
  alter fun process => { process with time := max process.time time }
  if (← get).commons.deadline < (← process).time then throw (.gone (.killed killSignal))

def pass (duration : Nat) : Job Unit := do waitUntil ((← process).time + duration)

/-- All that can still be read from a channel, with its times; reading does not wait. -/
def pieces (channel : Nat) : Job Input := do
  let process ← process
  match process.channel? channel with
  | some (.input number) =>
    let input := (← get).commons.input number
    alterCommons (·.setInput number { input with pieces := [] })
    return input
  | some .zeros => return ⟨[], forever, none⟩
  | _ => return ⟨[], process.time, none⟩

def readAll (channel : Nat) : Job (List UInt8) := do
  let input ← pieces channel
  waitUntil input.ended
  return input.pieces.flatMap (·.2)

/-- Read a line from a channel; the answer tells whether it had its end. -/
def readLine (channel : Nat) : Job (List UInt8 × Bool) := do
  let process ← process
  match process.channel? channel with
  | some (.input number) =>
    let input := (← get).commons.input number
    let bytes := input.pieces.flatMap fun (time, bytes) => bytes.map fun b => (time, b)
    let line := bytes.takeWhile (·.2 != 10)
    match bytes.drop line.length with
    | (time, _) :: rest =>
      waitUntil time
      alterCommons
        (·.setInput number { input with pieces := rest.map fun (time, b) => (time, [b]) })
      return (line.map (·.2), true)
    | [] =>
      waitUntil input.ended
      alterCommons (·.setInput number { input with pieces := [] })
      return (line.map (·.2), false)
  | _ => return ([], false)

def source (bytes : List UInt8) : Job Channel := do
  let time := (← process).time
  let (number, commons) := (← get).commons.fresh
  alterCommons fun _ => commons.setInput number ⟨[(time, bytes)], time, some bytes.length⟩
  return .input number

/-- Repeat a job from round to round, until it answers on the right; too many rounds never end. -/
def rounds {β : Type} (limit : Nat) (round : β → Job (β ⊕ β)) (b : β) : Job β :=
  match limit with
  | 0 => do
    waitUntil forever
    return b
  | limit + 1 => do
    match ← round b with
    | .inl next => rounds limit round next
    | .inr last => return last

def andThen (job : Job α) (change : Process → Process) : Job α := fun s =>
  let (answer, after) := job s
  (answer, { after with process := change after.process })

/-- Run a job, and answer with what stopped it, if anything did. -/
def outcome (job : Job Unit) : Job (Option Halt) := fun s =>
  match job s with
  | (.ok (), after) => (.ok none, after)
  | (.error halt, after) => (.ok (some halt), after)

/-- Run a job in a child that starts with other channels, to its end. The clock of the process
itself stands still. -/
def fork (channels : List (Nat × Channel)) (job : Job Ending) : Job Child := fun s =>
  let (number, commons) := s.commons.fresh
  let process := { s.process with
    number := number
    channels := channels
    above := s.process.number :: s.process.above
    children := []
    traps := s.process.traps.filter (·.2.isEmpty) }
  let (answer, after) := job { commons := commons, process := process }
  let ending :=
    match answer with
    | .ok ending | .error (.gone ending) => ending
    | .error _ => .exited after.process.status
  let commons := after.commons.hold number after.process.time (after.process.channels.map (·.2))
  (.ok ⟨number, after.process.time, ending⟩, { commons := commons, process := s.process })

/-- Run a job with other channels; the old ones come back after it. -/
def withChannels (channels : List (Nat × Channel)) (job : Job α) : Job α := fun s =>
  let old := s.process.channels
  let (answer, after) := job { s with process := { s.process with channels := channels } }
  (answer, { after with process := { after.process with channels := old } })

end Job

end Rollout.Machine
