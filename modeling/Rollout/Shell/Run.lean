import Rollout.Shell.Builtin
import Rollout.Shell.Parameter
import Rollout.Shell.Reader
import Rollout.Shell.Start

/-!
The shell: words are expanded, commands are run, and programs are started.

Nesting is bounded; a script that nests deeper ends as one that has no memory left. Rounds of loops
are bounded as well, but so that a loop with so many rounds counts as one that never ends.
-/

set_option autoImplicit false
set_option relaxedAutoImplicit false

namespace Rollout.Shell.Run

open Machine (Job Process Channel Child Halt Variable)
open Builtin (raise complain)
open Parameter Start

def depth : Nat := 1000

def roundLimit : Nat := 1000000

def overflow {α : Type} : Job α := throw (.gone (.killed 11))

/-- How the words for a cause differ where a shell cannot open something. -/
def openWords (created : Bool) (cause : Disk.Cause) : String :=
  match cause, created with
  | .absent, true | .notDirectory, true => "Directory nonexistent"
  | .absent, false | .notDirectory, false => "No such file"
  | cause, _ => cause.words

def replaceChannel (channels : List (Nat × Channel)) (number : Nat) (channel : Option Channel) :
    List (Nat × Channel) :=
  let others := channels.filter (·.1 != number)
  match channel with
  | some channel => (number, channel) :: others
  | none => others

/-- Look at the failure of a job, so that the shell does not end by it. -/
def tested (job : Job Unit) : Job Unit := do
  let old := (← Job.process).tested
  Job.alter ({ · with tested := true })
  Job.andThen job ({ · with tested := old })

def checkExit : Job Unit := do
  let process ← Job.process
  if process.status != 0 && process.flags.contains 'e' && !process.tested then
    Job.quit (process.status % 256)

/-- Run a job; some variables have their old values after it. -/
def withOld (names : List String) (old : Entries Variable) (job : Job Unit) : Job Unit :=
  Job.andThen job fun process =>
    { process with
      store := names.foldl (fun store name =>
        match old.get? name with
        | some before => store.put name before
        | none => store.filter (·.1 != name)) process.store }

def trace (channel : Option Channel) (words : List String) : Job Unit := do
  let process ← Job.process
  if process.flags.contains 'x' then
    let mark := (process.value? "PS4").getD "+ "
    if let some channel := channel then
      Job.alterCommons (·.write process.number process.time channel
        (Format.bytesOf (mark ++ " ".intercalate words ++ "\n")))

def await (child : Child) : Job Unit := do
  let _ ← Builtin.suspend false child.ended
  Builtin.tellOf child
  Job.answer (Builtin.statusOf child.ending)

def loopCount (command : String) (words : List String) : Job Nat :=
  match words with
  | [] => return 1
  | word :: _ => do
    let n ← Builtin.natural command word
    if n = 0 then raise s!"{command}: Illegal number: {word}"
    return n

/-- Run a round of a loop; the answer is whether the loop goes on. -/
def inLoop (job : Job Unit) : Job Bool := do
  match ← Job.outcome job with
  | none => return true
  | some (.leave n) => if n ≤ 1 then return false else throw (.leave (n - 1))
  | some (.again n) => if n ≤ 1 then return true else throw (.again (n - 1))
  | some halt => throw halt

def loop (job : Job Unit) : Job Unit := do
  Job.alter fun process => { process with loops := process.loops + 1 }
  Job.andThen job fun process => { process with loops := process.loops - 1 }

/-- Run a job; what ends the shell only fails here. -/
def spared (job : Job Unit) : Job Unit := do
  match ← Job.outcome job with
  | none => return ()
  | some .failed => Job.answer 2
  | some halt => throw halt

/-- A producer after its consumer has ended: the next time that it writes ends it. -/
def stopped (written : List (Nat × List UInt8)) (consumer producer : Child) : Job Child := do
  let now := consumer.ended
  let next? := (written.find? fun (time, _) => now < time).map (·.1)
  let isEndless := Machine.forever ≤ producer.ended && !written.isEmpty && now < Machine.forever
  match if isEndless then some (next?.getD now) else next? with
  | some time =>
    if time < producer.ended then
      Job.alterCommons (·.cutOff producer.number time)
      return { producer with ended := time, ending := .killed Machine.pipeSignal }
    else return producer
  | none => return producer

mutual

/-- Expand a word to cells. What is not quoted in it is loose if `loose` says so. -/
def cells (room : Nat) (quoted loose : Bool) (word : Word) : Job (List Cell) :=
  match room with
  | 0 => overflow
  | room + 1 => return (← word.mapM (partCells room quoted loose)).flatten

def partCells (room : Nat) (quoted loose : Bool) (part : Part) : Job (List Cell) :=
  match room with
  | 0 => overflow
  | room + 1 =>
    match part with
    | .plain text => return Cell.ofText quoted (loose && !quoted) text
    | .quoted text => return .mark :: Cell.ofText true false text
    | .double parts => do
      let process ← Job.process
      match parts, process.arguments with
      | [.parameter "@" .none], [] => return []
      | parts, _ => return .mark :: (← cells room true false parts)
    | .parameter name change => changed room quoted name change
    | .output script => do
      return Cell.ofText quoted (!quoted) (← outputOf room script)
    | .sum parts => do
      let text := Cell.text (← cells room true false parts)
      let process ← Job.process
      let names := process.store.map fun (name, v) => (name, v.value.getD "")
      match Arithmetic.value names text with
      | .error fault => raise (fault.message text)
      | .ok (value, after) =>
        for (name, value) in after do
          if (process.value? name).getD "" != value then Builtin.assign none name value
        return Cell.ofText quoted (!quoted) (toString value)

def changed (room : Nat) (quoted : Bool) (name : String) (change : Change) : Job (List Cell) :=
  match room with
  | 0 => overflow
  | room + 1 => do
    let process ← Job.process
    let found := valueCells? process quoted name
    let text := (found.map Cell.text).getD ""
    let missing (orEmpty : Bool) : Bool := found.isNone || (orEmpty && text.isEmpty)
    let strict : Job Unit :=
      if found.isNone && process.flags.contains 'u' && name != "@" && name != "*" then
        raise s!"{name}: parameter not set"
      else return ()
    match change with
    | .none =>
      strict
      return found.getD []
    | .length =>
      strict
      let n := if name == "@" || name == "*" then process.arguments.length else text.utf8ByteSize
      return Cell.ofText quoted (!quoted) (toString n)
    | .default orEmpty word =>
      if missing orEmpty then cells room quoted true word else return found.getD []
    | .assign orEmpty word =>
      if missing orEmpty then
        let value := Cell.text (← cells room quoted false word)
        if !isName name.toList then raise s!"{name}: bad variable name"
        Builtin.assign none name value
        return Cell.ofText quoted (!quoted) value
      else return found.getD []
    | .replace orEmpty word =>
      if missing orEmpty then return [] else cells room quoted true word
    | .demand orEmpty word =>
      if missing orEmpty then
        let words := Cell.text (← cells room quoted false word)
        let usual := if orEmpty then "parameter not set or null" else "parameter not set"
        raise s!"{name}: {if words.isEmpty then usual else words}"
      else return found.getD []
    | .strip atEnd longest word =>
      strict
      let field := Cell.field (← cells room false false word)
      return Cell.ofText quoted (!quoted)
        (String.ofList (field.pattern.strip atEnd longest text.toList))

def outputOf (room : Nat) (script : Script) : Job String :=
  match room with
  | 0 => overflow
  | room + 1 => do
    let process ← Job.process
    let (number, commons) := (← get).commons.fresh
    Job.alterCommons fun _ => commons
    Job.alter ({ · with tested := false })
    let child ← Job.fork (replaceChannel process.channels 1 (some (.pipe number)))
      (ending room (run room true script))
    Job.alter ({ · with tested := process.tested })
    Job.alterCommons (·.turn number)
    let input := (← get).commons.input number
    let _ ← Builtin.suspend false (max child.ended input.ended)
    Builtin.tellOf child
    Job.alter ({ · with captured := true, status := Builtin.statusOf child.ending })
    let bytes := (input.pieces.flatMap (·.2)).filter (· != 0)
    let text := Text.Utf8.decodeLossy bytes
    return String.ofList (text.reverse.dropWhile (· == '\n')).reverse

def textOf (room : Nat) (word : Word) : Job String :=
  match room with
  | 0 => overflow
  | room + 1 => do
    return Cell.text (← cells room false false (withoutTilde (← Job.process) word))

def fieldsOf (room : Nat) (words : List Word) : Job (List String) :=
  match room with
  | 0 => overflow
  | room + 1 => do
    let fields ← words.mapM fun word => do
      let found ← cells room false false (withoutTilde (← Job.process) word)
      let state ← get
      let fields := Cell.fields (separators state.process) found
      if state.process.flags.contains 'f' then return fields.map Field.text
      else return fields.flatMap (Field.paths state.commons.disk state.process.here)
    return fields.flatten

/-- Open what redirections ask for; the answer is the channels, unless something cannot be
opened. -/
def opened (room : Nat) (channels : List (Nat × Channel)) (redirections : List Redirection) :
    Job (Option (List (Nat × Channel))) :=
  match room with
  | 0 => overflow
  | room + 1 =>
    redirections.foldlM (fun channels redirection =>
      match channels, redirection with
      | none, _ => return none
      | some channels, .mk number direction target => do
        let text ← textOf room target
        let refuse (action : String) (created : Bool) (cause : Disk.Cause) :
            Job (Option (List (Nat × Channel))) := do
          complain s!"cannot {action} {text}: {openWords created cause}"
          return none
        match direction with
        | .document =>
          let source ← Job.source (Format.bytesOf text)
          return replaceChannel channels number (some source)
        | .share =>
          if text == "-" then return some (replaceChannel channels number none)
          else match text.toNat? with
            | none => raise "Syntax error: Bad fd number"
            | some other =>
              match channels.find? (·.1 = other) with
              | some (_, channel) => return some (replaceChannel channels number (some channel))
              | none =>
                complain s!"{other}: Bad file descriptor"
                return none
        | .read =>
          match ← Machine.Tool.openToRead text with
          | .ok channel => return some (replaceChannel channels number (some channel))
          | .error .isDirectory => return some (replaceChannel channels number (some .nothing))
          | .error cause => refuse "open" false cause
        | .write | .append =>
          match ← Machine.Tool.openToWrite (direction = .append) text with
          | .ok channel => return some (replaceChannel channels number (some channel))
          | .error cause => refuse "create" true cause) (some channels)

/-- Run a job with redirections. Where they cannot be opened, the job is not run. -/
def redirected (room : Nat) (forGood : Bool) (redirections : List Redirection) (job : Job Unit) :
    Job Unit :=
  match room with
  | 0 => overflow
  | room + 1 => do
    if redirections.isEmpty then job
    else
      let process ← Job.process
      match ← opened room process.channels redirections with
      | none => Job.answer 2
      | some channels =>
        if forGood then
          Job.alterCommons (·.hold process.number process.time (process.channels.map (·.2)))
          Job.alter ({ · with channels := channels })
          job
        else Job.withChannels channels job

/-- Run a job as all that a process still does; the answer is how the process ends. -/
def ending (room : Nat) (job : Job Unit) : Job Ending :=
  match room with
  | 0 => overflow
  | room + 1 => do
    let halt ← Job.outcome job
    match halt with
    | some (.gone (.killed signal)) => return .killed signal
    | halt =>
      let status ←
        match halt with
        | some (.gone ending) => pure (Builtin.statusOf ending)
        | some .failed => pure 2
        | _ => pure (← Job.process).status
      match (← Job.process).traps.get? "EXIT" with
      | none | some "" => return .exited (status % 256)
      | some action =>
        Job.alter fun process =>
          { process with traps := process.traps.filter (·.1 != "EXIT"), status := status }
        match ← Job.outcome (evaluate room false "" action) with
        | some (.gone ending) => return ending
        | _ => return .exited (status % 256)

def arrivals (room : Nat) : Job Unit :=
  match room with
  | 0 => overflow
  | room + 1 => do
    match ← Builtin.nextSignal? (← Job.process).time with
    | none => return ()
    | some (sent, signal) =>
      Builtin.takeSignal sent signal
      match Builtin.action? (← Job.process) signal with
      | none => Builtin.succumb signal
      | some action =>
        let status := (← Job.process).status
        evaluate room false "" action
        Job.answer status
      arrivals room

def evaluate (room : Nat) (last : Bool) (command text : String) : Job Unit :=
  match room with
  | 0 => overflow
  | room + 1 => do
    let (script, fault) := Reader.readAll text
    run room (last && fault.isNone) script
    if let some fault := fault then
      let name := (← Job.process).name
      Job.complain s!"{name}: {fault.line}: {command}{fault.message}"
      throw .failed

/-- Run a script. With `last`, it is all that the process still does. -/
def run (room : Nat) (last : Bool) (script : Script) : Job Unit :=
  match room with
  | 0 => overflow
  | room + 1 => do
    if (← Job.process).flags.contains 'n' then return ()
    match script with
    | .simple line settings words redirections => do
      Job.alter ({ · with line := line, captured := false })
      simple room last settings words redirections
      arrivals room
      checkExit
    | .pipeline scripts => do
      pipeline room scripts
      arrivals room
      checkExit
    | .negated script => do
      tested (run room false script)
      Job.answer (if (← Job.process).status = 0 then 1 else 0)
    | .both first second => do
      tested (run room false first)
      if (← Job.process).status = 0 then run room last second
    | .either first second => do
      tested (run room false first)
      if (← Job.process).status != 0 then run room last second
    | .sequence scripts =>
      match scripts.getLast? with
      | none => Job.answer 0
      | some final => do
        scripts.dropLast.forM (run room false)
        run room last final
    | .background script => do
      let process ← Job.process
      let child ← Job.fork (replaceChannel process.channels 0 (some .nothing))
        (ending room (run room true script))
      Job.alter fun process =>
        { process with
          children := process.children ++ [child]
          lastChild := some child.number
          status := 0 }
    | .subshell script redirections => do
      let process ← Job.process
      let inner := redirected room true redirections (run room true script)
      if last && process.traps.isEmpty then inner
      else
        await (← Job.fork process.channels (ending room inner))
        arrivals room
        checkExit
    | .group script redirections => redirected room false redirections (run room false script)
    | .branch condition yes no => do
      tested (run room false condition)
      if (← Job.process).status = 0 then run room last yes else run room last no
    | .loop untilTrue condition body => loop do
      let status ← Job.rounds roundLimit (fun last => do
        if !(← inLoop (tested (run room false condition))) then return .inr 0
        else if decide ((← Job.process).status = 0) = untilTrue then return .inr last
        else
          let goesOn ← inLoop (run room false body)
          let status := (← Job.process).status
          return if goesOn then .inl status else .inr status) 0
      Job.answer status
    | .each name words body => do
      let values ←
        match words with
        | some words => fieldsOf room words
        | none => pure (← Job.process).arguments
      Job.answer 0
      loop (eachOf room name body values)
    | .choice word cases => do
      let text ← textOf room word
      let found ← cases.findM? fun (patterns, _) => patterns.anyM fun pattern => do
        let field := Cell.field (← cells room false false pattern)
        return field.pattern.holds text.toList
      match found with
      | some (_, script) => run room last script
      | none => Job.answer 0
    | .define name body => do
      Job.alter fun process =>
        { process with functions := process.functions.put name body, status := 0 }

def eachOf (room : Nat) (name : String) (body : Script) (values : List String) : Job Unit :=
  match room with
  | 0 => overflow
  | room + 1 => do
    for value in values do
      Builtin.assign none name value
      if !(← inLoop (run room false body)) then return ()

def pipeline (room : Nat) (scripts : List Script) : Job Unit :=
  match room with
  | 0 => overflow
  | room + 1 => do
    let start := (← Job.process).channels
    let mut children : List Child := []
    let mut source : Option Nat := none
    let mut written : List (Nat × List UInt8) := []
    let mut left := scripts.length
    for script in scripts do
      left := left - 1
      let (number, commons) := (← get).commons.fresh
      Job.alterCommons fun _ => commons
      let channels :=
        match source with
        | none => start
        | some number => replaceChannel start 0 (some (.input number))
      let channels := if left = 0 then channels else replaceChannel channels 1 (some (.pipe number))
      let child ← Job.fork channels (ending room (run room true script))
      if let producer :: others := children then
        children := (← stopped written child producer) :: others
      written := (← get).commons.written number
      Job.alterCommons (·.turn number)
      source := some number
      children := child :: children
    let ended := children.foldl (fun time child => max time child.ended) 0
    let _ ← Builtin.suspend false ended
    children.reverse.forM Builtin.tellOf
    Job.answer ((children.head?.map fun child => Builtin.statusOf child.ending).getD 0)

/-- Set variables one by one, and show them with the words of their command if that is asked for. -/
def valued (room : Nat) (complaints : Option Channel) (settings : List (String × Word))
    (words : List String) : Job Unit :=
  match room with
  | 0 => overflow
  | room + 1 => do
    let shown ← settings.mapM fun (name, word) => do
      let value ← textOf room word
      Builtin.assign none name value
      return s!"{name}={value}"
    if !(shown.isEmpty && words.isEmpty) then trace complaints (shown ++ words)

def simple (room : Nat) (last : Bool) (settings : List (String × Word)) (words : List Word)
    (redirections : List Redirection) : Job Unit :=
  match room with
  | 0 => overflow
  | room + 1 => do
    let complaints := (← Job.process).channel? 2
    match ← fieldsOf room words with
    | [] =>
      redirected room false redirections do
        valued room complaints settings []
        if !(← Job.process).captured then Job.answer 0
    | name :: arguments =>
      let process ← Job.process
      let briefly (job : Job Unit) : Job Unit := do
        let old := (← Job.process).store
        let names := settings.map (·.1)
        withOld names old do
          valued room complaints settings (name :: arguments)
          Job.alter fun process =>
            { process with
              store := names.foldl (fun store name =>
                match store.get? name with
                | some v => store.put name { v with shared := true }
                | none => store) process.store }
          job
      match Builtin.meaningOf process (← get).commons.disk name with
      | .special =>
        match ← opened room process.channels redirections with
        | none => throw .failed
        | some channels =>
          let job : Job Unit := do
            valued room complaints settings (name :: arguments)
            special room name arguments
          if name == "exec" && arguments.isEmpty then redirected room true redirections job
          else if redirections.isEmpty then job
          else Job.withChannels channels job
      | .function => redirected room false redirections (briefly (call room name arguments))
      | .builtin => redirected room false redirections (briefly (plain room name arguments))
      | _ =>
        let alone := last && process.traps.isEmpty
        redirected room alone redirections (briefly (start room alone "" name arguments))

def special (room : Nat) (name : String) (arguments : List String) : Job Unit :=
  match room with
  | 0 => overflow
  | room + 1 =>
    match name, arguments with
    | "exec", [] => Job.answer 0
    | "exec", name :: arguments => start room true "exec: " name arguments
    | "eval", words => evaluate room false "eval: " (" ".intercalate words)
    | ".", [] => Job.answer 0
    | ".", path :: _ => do
      let state ← get
      let place? := (if path.contains '/' then [path]
        else Machine.searchPaths ((state.process.value? "PATH").getD "") path).find? fun path =>
          (state.commons.disk.find state.process.here path).toOption.isSome
      match place? with
      | none =>
        raise (if path.contains '/' then s!".: cannot open {path}: No such file"
          else s!".: {path}: not found")
      | some path =>
        match state.commons.disk.find state.process.here path with
        | .ok (_, .file bytes _) =>
          let text := String.ofList (Text.Utf8.decodeLossy bytes)
          match ← Job.outcome (evaluate room false s!"{path}: " text) with
          | none | some .back => return ()
          | some halt => throw halt
        | _ => Job.answer 0
    | "exit", words => do
      let status ← match words with
        | [] => pure (← Job.process).status
        | word :: _ => Builtin.natural "exit" word
      Job.quit (status % 256)
    | "return", words => do
      if let word :: _ := words then Job.answer (← Builtin.natural "return" word)
      throw .back
    | "break", words => do
      let n ← loopCount "break" words
      let process ← Job.process
      Job.answer 0
      if process.loops != 0 then throw (.leave (min n process.loops))
    | "continue", words => do
      let n ← loopCount "continue" words
      let process ← Job.process
      Job.answer 0
      if process.loops != 0 then throw (.again (min n process.loops))
    | name, words =>
      match Builtin.job? name words with
      | some job => do Job.answer (← job)
      | none => Job.answer 0

/-- Run another command of the shell; what ends the shell in special commands only fails here. -/
def plain (room : Nat) (name : String) (arguments : List String) : Job Unit :=
  match room with
  | 0 => overflow
  | room + 1 =>
    match name, arguments with
    | "command", "-v" :: words => do Job.answer (← Builtin.locate words)
    | "command", "-V" :: words => do Job.answer (← Builtin.type words)
    | "command", "-p" :: words | "command", words =>
      match words with
      | [] => Job.answer 0
      | name :: arguments => do
        let process ← Job.process
        let disk := (← get).commons.disk
        match Builtin.meaningOf { process with functions := [] } disk name with
        | .special => spared (special room name arguments)
        | .builtin => plain room name arguments
        | _ => start room false "" name arguments
    | name, words =>
      match Builtin.job? name words with
      | some job => spared do Job.answer (← job)
      | none => Job.answer 0

def call (room : Nat) (name : String) (arguments : List String) : Job Unit :=
  match room with
  | 0 => overflow
  | room + 1 => do
    let process ← Job.process
    match process.functions.get? name with
    | none => return ()
    | some body =>
      Job.alter ({ · with arguments := arguments, loops := 0, kept := some [] })
      let halt ← Job.outcome (run room false body)
      Job.alter fun after =>
        { after with
          arguments := process.arguments
          loops := process.loops
          kept := process.kept
          store := (after.kept.getD []).foldl (fun store (name, before) =>
            match before with
            | some before => store.put name before
            | none => store.filter (·.1 != name)) after.store }
      match halt with
      | none | some .back => return ()
      | some halt => throw halt

/-- Start a program from the shell: in the place of the shell, or in a child that is waited for. -/
def start (room : Nat) (alone : Bool) (command name : String) (arguments : List String) :
    Job Unit :=
  match room with
  | 0 => overflow
  | room + 1 => do
    let process ← Job.process
    let disk := (← get).commons.disk
    let search := (process.value? "PATH").getD ""
    match imageFor process disk search name with
    | .error cause =>
      complain s!"{command}{name}: {absenceWords cause}"
      let status := if name.isEmpty then 127 else absence cause
      if alone then Job.quit status else Job.answer status
    | .ok image =>
      let job := program room image (name :: arguments) (environment process)
      if alone then throw (.gone (← job))
      else await (← Job.fork process.channels job)

def program (room : Nat) (image : Machine.Image) (argv : List String)
    (environment : Entries String) : Job Ending :=
  match room with
  | 0 => overflow
  | room + 1 => do
    Job.alter (renewed environment)
    let words := image.words argv
    let name := words.headD ""
    match Machine.tool? image.program with
    | some tool => return .exited ((← tool name (words.drop 1)) % 256)
    | none =>
      if Machine.shells.contains image.program then
        ending room (shell room name (words.drop 1))
      else starter room image.program name (words.drop 1)

def shell (room : Nat) (name : String) (arguments : List String) : Job Unit :=
  match room with
  | 0 => overflow
  | room + 1 => do
    let old ← Job.process
    let fill (store : Entries Variable) (entry : String × String) : Entries Variable :=
      store.put entry.1 ⟨some entry.2, false, false⟩
    let named := old.store.filter fun entry => isName entry.1.toList
    let given := named.filter (·.1 == "PATH") ++ named.filter (·.1 != "PATH")
    let usual := [("PS1", "# "), ("PS2", "> "), ("PS4", "+ "), ("OPTIND", "1"), ("IFS", " \t\n"),
      ("PPID", toString (old.above.headD 1))]
    let disk := (← get).commons.disk
    let known :=
      match old.value? "PWD" with
      | some path =>
        match disk.find old.here path with
        | .ok (place, _) => if place = old.here && path.startsWith "/" then path else old.directory
        | .error _ => old.directory
      | none => old.directory
    let given := if (old.value? "PATH").isSome then given else fill given ("PATH", usualSearch)
    let store := (usual.foldl fill given).put "PWD" ⟨some known, true, false⟩
    Job.alter fun process =>
      { process with
        name := name, shell := process.number, known := known, store := store
        status := 0, line := 0, offset := 0, lastChild := none, children := [] }
    match asked arguments with
    | .error text => raise text
    | .ok asked =>
      Builtin.setFlags "" true asked.letters
      match asked.hasCommand, asked.words with
      | true, [] => raise "-c requires an argument"
      | true, text :: rest =>
        Job.alter ({ · with name := rest.headD name, arguments := rest.drop 1 })
        evaluate room false "" text
      | false, path :: rest =>
        if asked.letters.contains 's' then
          Job.alter ({ · with arguments := path :: rest })
          let bytes ← Job.readAll 0
          evaluate room false "" (String.ofList (Text.Utf8.decodeLossy bytes))
          return ()
        let state ← get
        match state.commons.disk.find state.process.here path with
        | .ok (_, .file bytes _) =>
          Job.alter ({ · with name := path, arguments := rest })
          evaluate room false "" (String.ofList (Text.Utf8.decodeLossy bytes))
        | .ok (_, .directory _) =>
          Job.alter ({ · with name := path, arguments := rest })
        | .ok _ => Job.answer 0
        | .error cause =>
          complain s!"cannot open {path}: {openWords false cause}"
          Job.quit 2
      | false, [] =>
        let bytes ← Job.readAll 0
        evaluate room false "" (String.ofList (Text.Utf8.decodeLossy bytes))

def starter (room : Nat) (program' name : String) (arguments : List String) : Job Ending :=
  match room with
  | 0 => overflow
  | room + 1 => do
    let process ← Job.process
    let disk := (← get).commons.disk
    let run (environment : Entries String) (words : List String) : Job Ending := do
      match words with
      | [] => return .exited (← Machine.Tool.misuse name "missing operand" 125)
      | command :: _ =>
        let search := ((environment.get? "PATH").getD "/bin:/usr/bin")
        match Machine.search disk process.here (Machine.searchPaths search command) with
        | .error cause =>
          let text :=
            match program' with
            | "timeout" => s!"failed to run command {Machine.Tool.curly command}"
            | "nohup" => s!"failed to run command {Machine.Tool.straight command}"
            | "setsid" => s!"failed to execute {command}"
            | _ => Machine.Tool.curly command
          return .exited (← Machine.Tool.fail name s!"{text}: {cause.words}" (absence cause))
        | .ok image => program room image words environment
    match program' with
    | "env" =>
      match envSwitches (arguments.length + 1) process.environment arguments with
      | .error text => return .exited (← Machine.Tool.misuse name text 125)
      | .ok (environment, []) =>
        return .exited (← Machine.Tool.printText name ("".intercalate
          (environment.map fun (key, value) => s!"{key}={value}\n")))
      | .ok (environment, words) => run environment words
    | "timeout" =>
      match arguments with
      | text :: words@(_ :: _) =>
        match Machine.Tool.duration? text with
        | none =>
          return .exited (← Machine.Tool.misuse name
            s!"invalid time interval {Machine.Tool.curly text}" 125)
        | some duration =>
          let child ← Job.fork process.channels (run process.environment words)
          let limit := process.time + duration
          if duration != 0 && limit < child.ended then
            Job.alterCommons (·.cutOff child.number limit)
            Job.waitUntil limit
            return .exited 124
          else
            Job.waitUntil child.ended
            return .exited (Builtin.statusOf child.ending)
      | _ =>
        Job.complain s!"Try '{name} --help' for more information."
        return .exited 125
    | _ => run process.environment arguments

end

end Rollout.Shell.Run
