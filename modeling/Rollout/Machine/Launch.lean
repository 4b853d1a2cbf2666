import Rollout.Act
import Rollout.Environment
import Rollout.Number.Shortest
import Rollout.Shell.Run

/-!
The running of one command: checks before it, its start, the wait for its end, and its result.

With a kept output, the wait goes on until the output is closed by all that hold it; without, until
the command itself ends. A command that is not done in time is ended with all that it started, and
what was written until then counts.
-/

set_option autoImplicit false
set_option relaxedAutoImplicit false

namespace Rollout.Machine

open Number (Binary64)

/-- The world that commands run in: the disk, the environment, and what commands wrote to the
streams that they share with the program. -/
structure World where
  disk : Disk
  environment : Environment
  out : List UInt8
  err : List UInt8

def logger : String := "sequencer.process"

def wordLimit : Nat := 131072

def wordsLimit : Nat := 2097152

/-- Where programs are looked for if the environment does not say it. -/
def usualSearch : String := "/bin:/usr/bin"

def startTime : Nat := Nat.pow 10 5

/-- How long a command may take that has no timeout, in billionths of a second. -/
def patience : Nat := Nat.pow 10 12

/-- A duration in billionths of a second, rounded down; none where it has no end. -/
def nanoseconds? : Binary64 → Option Nat
  | .finite true _ _ => some 0
  | .finite false mantissa scale =>
    some (mantissa * Nat.pow 2 scale * Nat.pow 10 9 / Binary64.leastInOne)
  | .infinite true => some 0
  | .infinite false | .nan => none

/-- A duration in thousandths of a second, rounded up; none where it has no end. -/
def milliseconds? (duration : Binary64) : Option Nat :=
  match duration with
  | .finite true _ _ | .infinite true => some 0
  | .finite false mantissa scale =>
    let n := mantissa * Nat.pow 2 scale * 1000
    some ((n + (Binary64.leastInOne - 1)) / Binary64.leastInOne)
  | .infinite false | .nan => none

def waitLimit : Nat := 2147483647

def clockLimit : Nat := 9223372036854

def waitFault? (duration : Binary64) : Option Fault :=
  match milliseconds? duration with
  | none => some .unboundedWait
  | some n =>
    if n > clockLimit then some .waitUncountable
    else if n > waitLimit then some .waitTooLong
    else none

def environmentFor (environment : Environment) (call : Call) : Environment :=
  Entries.overlay environment (call.overlay.getD [])

def fault? (environment : Environment) (call : Call) : Option Fault :=
  let given := environmentFor environment call
  let isLaid := !(call.overlay.getD []).isEmpty
  let holdsNull (text : String) : Bool := text.contains '\x00'
  if call.argv.isEmpty then some .noArguments
  else if isLaid && given.any fun (name, _) => name.contains '=' then some .variableName
  else if call.argv.any holdsNull || holdsNull call.directory.toString ||
      (isLaid && given.any fun (name, value) => holdsNull name || holdsNull value) then
    some .nullCharacter
  else none

/-- What is started for a command, and where; or why nothing is. -/
def begin (disk : Disk) (environment : Environment) (call : Call) :
    Except Disk.Fault (Image × Place) :=
  let name := call.argv.headD ""
  let refuse {α : Type} (cause : Disk.Cause) : Except Disk.Fault α := .error ⟨cause, some name⟩
  match disk.find disk.here call.directory.toString with
  | .error cause => .error ⟨cause, some call.directory.toString⟩
  | .ok (place, .directory _) =>
    let paths := searchPaths ((environment.get? "PATH").getD usualSearch) name
    match search disk place paths with
    | .error cause => refuse cause
    | .ok image =>
      let words := call.argv ++ environment.map fun (name, value) => s!"{name}={value}"
      let sizes := words.map fun word => word.utf8ByteSize + 1
      let size := sizes.foldl (· + ·) (8 * words.length)
      if sizes.any (decide <| wordLimit < ·) || wordsLimit < size then refuse .argumentsTooLong
      else .ok (image, place)
  | .ok _ => .error ⟨.notDirectory, some call.directory.toString⟩

def endingFor : Disk.Cause → Ending
  | .barred => .barred
  | _ => .absent

def firstProcess : Nat := 1000

/-- The machine before a command, and the process of the command. -/
def stateFor (world : World) (environment : Environment) (place : Place) (call : Call)
    (deadline : Nat) : State where
  commons :=
    { disk := world.disk, writes := [], holds := [], inputs := [], pipes := [], signals := []
      next := firstProcess + 1, deadline := deadline }
  process :=
    { number := firstProcess
      time := 0
      here := place
      known := ""
      channels := [(0, .nothing), (1, if call.capture then .result else .out), (2, .err)]
      store := environment.map fun (name, value) => (name, ⟨some value, true, false⟩)
      shell := firstProcess
      above := []
      name := ""
      arguments := []
      functions := []
      kept := none
      status := 0
      captured := false
      traps := []
      flags := []
      children := []
      lastChild := none
      line := 0
      offset := 0
      mask := 0o022
      loops := 0
      tested := false }

structure Done where
  ending : Ending
  time : Nat
  commons : Commons

def runImage (world : World) (environment : Environment) (image : Image) (place : Place)
    (call : Call) (deadline : Nat) : Done :=
  let job := Shell.Run.program Shell.Run.depth image call.argv environment
  let (answer, after) := job (stateFor world environment place call deadline)
  let ending :=
    match answer with
    | .ok ending | .error (.gone ending) => ending
    | .error _ => .exited after.process.status
  let commons :=
    after.commons.hold firstProcess after.process.time (after.process.channels.map (·.2))
  let held := if call.capture then commons.heldUntil .result else 0
  ⟨ending, max after.process.time held, commons⟩

/-- What was written to a channel up to a time, in the order of its times. -/
def writtenTo (commons : Commons) (channel : Channel) (time : Nat) : List UInt8 :=
  let found := commons.writes.reverse.filter fun w => w.channel = channel && w.time ≤ time
  (found.mergeSort fun a b => a.time ≤ b.time).flatMap (·.bytes)

def Done.isLate (done : Done) (limit? : Option Nat) : Bool :=
  let limit := limit?.getD patience
  limit?.isSome && (limit < startTime || limit < done.time)

def Done.written (done : Done) (limit? : Option Nat) (channel : Channel) : List UInt8 :=
  let limit := limit?.getD patience
  if done.isLate limit? && limit < startTime then []
  else writtenTo done.commons channel (if done.isLate limit? then limit else done.time)

/-- Bytes as text; what is no text is replaced, and line ends are line feeds. -/
def textOf (bytes : List UInt8) : String :=
  String.ofList (Text.unifyLineEnds (Text.Utf8.decodeLossy bytes))

def launch (call : Call) (world : World) : Launch World :=
  let words := " ".intercalate call.argv
  let began : Record := .of logger (.commandStarting words call.directory)
  match fault? world.environment call with
  | some fault => ⟨.error fault, [began], world⟩
  | none =>
    let environment := environmentFor world.environment call
    match begin world.disk environment call with
    | .error fault =>
      let name := call.argv.headD ""
      ⟨.ok (.ofEnding call.argv (endingFor fault.cause) none),
        [began, .of logger (.commandNotStarted name call.directory fault)], world⟩
    | .ok (image, place) =>
      match if call.capture then call.timeout.bind waitFault? else none with
      | some fault => ⟨.error fault, [began], world⟩
      | none =>
        let limit? := call.timeout.bind nanoseconds?
        let done := runImage world environment image place call (limit?.getD patience)
        let after : World :=
          { world with
            disk := done.commons.disk
            out := world.out ++ done.written limit? .out
            err := world.err ++ done.written limit? .err }
        let output := if call.capture then some (textOf (done.written limit? .result)) else none
        if done.isLate limit? then
          ⟨.ok (.ofEnding call.argv .expired output),
            [began, .of logger (.commandExpired words call.timeout)], after⟩
        else ⟨.ok (.ofEnding call.argv done.ending output), [began], after⟩

/-- The host of a world; its clock stands still. -/
def host : Host World where
  launch := launch
  tick world := (.zero false, world)

end Rollout.Machine
