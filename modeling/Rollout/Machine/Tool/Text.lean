import Rollout.Machine.Filter
import Rollout.Machine.Tool.Switches

/-!
Programs that pass bytes on: whole, in part or changed.

A program that needs only the start of its input ends as soon as it has that start; one that passes
its input on does so piece by piece.
-/

set_option autoImplicit false
set_option relaxedAutoImplicit false

namespace Rollout.Machine.Tool

def plainly (path : String) (cause : Disk.Cause) : String := s!"{seen path}: {cause.words}"

def pass (name : String) (pieces : List (Nat × List UInt8)) : Job Nat :=
  pieces.foldlM (fun status (time, bytes) => do
    Job.waitUntil time
    return max status (← print name bytes)) 0

def passAll (name : String) : Job Nat := do
  let input ← Job.pieces 0
  let status ← pass name input.pieces
  Job.waitUntil input.ended
  return status

def numbered (lines : List (List UInt8)) : List (List UInt8) :=
  lines.zipIdx.map fun (line, i) =>
    Shell.Format.bytesOf (Filter.column 6 (i + 1) ++ "\t") ++ line

def cat : Tool := withSwitches "un" "" fun name switches =>
  onFiles switches.operands fun path => onFile (plainly path) name path do
    if switches.has 'n' then
      let bytes ← Job.readAll 0
      let shown := Filter.joined (numbered (Filter.lines bytes))
      print name (if bytes.getLast? = some 10 then shown else shown.dropLast)
    else passAll name

inductive Measure
  | lines
  | bytes
  deriving DecidableEq, Repr

def Measure.first : Measure → Nat → List UInt8 → List UInt8
  | .lines => Filter.firstLines
  | .bytes => List.take

def Measure.last : Measure → Nat → List UInt8 → List UInt8
  | .lines, n, content => Filter.lastLines n content
  | .bytes, n, content => content.drop (content.length - n)

def Measure.after : Measure → Nat → List UInt8 → List UInt8
  | .lines => Filter.afterLines
  | .bytes => List.drop

def Measure.count : Measure → List UInt8 → Nat
  | .lines => Filter.lineCount
  | .bytes => List.length

def Measure.word : Measure → String
  | .lines => "lines"
  | .bytes => "bytes"

def Measure.complete : Measure → List UInt8 → Nat
  | .lines => List.count 10
  | .bytes => List.length

/-- The first so many of pieces, and how many are still wanted. -/
def firstOf (measure : Measure) (wanted : Nat) :
    List (Nat × List UInt8) → List (Nat × List UInt8) × Nat
  | [] => ([], wanted)
  | (time, bytes) :: rest =>
    if wanted = 0 then ([], 0)
    else
      let part := measure.first wanted bytes
      let (more, wanted) := firstOf measure (wanted - measure.complete part) rest
      ((time, part) :: more, wanted)

def factor? (letters : String) : Option Nat :=
  match letters with
  | "" => some 1
  | "b" => some 512
  | "kB" => some 1000
  | "k" | "K" | "KiB" => some 1024
  | "MB" => some 1000000
  | "m" | "M" | "MiB" => some (1024 * 1024)
  | _ => none

def count? (text : String) : Option Nat := do
  let digits := text.toList.takeWhile Char.isDigit
  let factor ← factor? (String.ofList (text.toList.drop digits.length))
  let n ← (String.ofList digits).toNat?
  return n * factor

/-- The arguments with a count that stands behind a dash alone given as a switch. -/
def unfolded : List String → List String
  | word :: rest =>
    let digits := word.toList.drop 1
    if word.startsWith "-" && !digits.isEmpty && digits.all Char.isDigit then
      "-n" :: String.ofList digits :: rest
    else word :: rest
  | [] => []

def asked (switches : Switches) : Measure × String :=
  match (switches.given.reverse.find? fun (letter, _) => letter == 'n' || letter == 'c') with
  | some ('c', text) => (.bytes, text)
  | some (_, text) => (.lines, text)
  | none => (.lines, "10")

/-- Show parts of files, each under a title if there are several. -/
def parts (name : String) (switches : Switches) (part : Job Nat) : Job Nat := do
  let titled := (switches.operands.length > 1 || switches.has 'v') && !switches.has 'q'
  let mut started := false
  let mut status := 0
  for path in if switches.operands.isEmpty then ["-"] else switches.operands do
    let refusal (cause : Disk.Cause) : String :=
      if cause = .isDirectory then s!"error reading '{path}': {cause.words}"
      else s!"cannot open '{path}' for reading: {cause.words}"
    let opened ← if path == "-" then pure true
      else match ← openToRead path with
        | .ok _ => pure true
        | .error cause => pure (decide (cause = .isDirectory))
    if titled && opened then
      let shown := if path == "-" then "standard input" else path
      let _ ← printText name ((if started then "\n" else "") ++ s!"==> {shown} <==\n")
      started := true
    status := max status (← onFile refusal name path part)
  return status

/-- Show the first lines or bytes of files. -/
def head : Tool := fun name arguments =>
  withSwitches "qvz" "nc" (fun name switches => do
    let (measure, text) := asked switches
    let fromEnd := text.startsWith "-"
    match count? (if fromEnd then (text.drop 1).toString else text) with
    | none => fail name s!"invalid number of {measure.word}: {curly text}" 1
    | some n =>
      parts name switches do
        let process ← Job.process
        if process.channel? 0 = some .zeros && measure = .bytes && !fromEnd then
          print name (List.replicate n 0)
        else if fromEnd then
          let bytes ← Job.readAll 0
          print name (measure.first (measure.count bytes - n) bytes)
        else
          let input ← Job.pieces 0
          let (pieces, wanted) := firstOf measure n input.pieces
          let status ← pass name pieces
          if wanted != 0 then Job.waitUntil input.ended
          return status) name (unfolded arguments)

def tail : Tool := fun name arguments =>
  withSwitches "qvz" "nc" (fun name switches => do
    let (measure, text) := asked switches
    let fromStart := text.startsWith "+"
    match count? (if fromStart || text.startsWith "-" then (text.drop 1).toString else text) with
    | none => fail name s!"invalid number of {measure.word}: {curly text}" 1
    | some n =>
      parts name switches do
        let bytes ← Job.readAll 0
        print name (if fromStart then measure.after (n - 1) bytes else measure.last n bytes)) name
    (unfolded arguments)

def others (set : List UInt8) : List UInt8 :=
  (Filter.bytesFrom 0 255).filter (!set.contains ·)

def tr : Tool := withSwitches "cCdst" "" fun name switches => do
  let set (text : String) : List UInt8 :=
    let bytes := Filter.setOf text
    if switches.has 'c' || switches.has 'C' then others bytes else bytes
  match switches.operands, switches.has 'd', switches.has 's' with
  | [], _, _ => misuse name "missing operand" 1
  | [one], true, false =>
    let bytes ← Job.readAll 0
    let gone := set one
    print name (bytes.filter (!gone.contains ·))
  | [one], false, true => do print name (Filter.squeezed (set one) (← Job.readAll 0))
  | [one], false, false =>
    Job.complain s!"{name}: missing operand after {curly one}"
    Job.complain "Two strings must be given when translating."
    Job.complain s!"Try '{name} --help' for more information."
    return 1
  | [one], true, true =>
    Job.complain s!"{name}: missing operand after {curly one}"
    Job.complain "Two strings must be given when both deleting and squeezing repeats."
    Job.complain s!"Try '{name} --help' for more information."
    return 1
  | [one, two], true, true =>
    let bytes ← Job.readAll 0
    let gone := set one
    print name (Filter.squeezed (Filter.setOf two) (bytes.filter (!gone.contains ·)))
  | [_, two], true, false =>
    Job.complain s!"{name}: extra operand {curly two}"
    Job.complain "Only one string may be given when deleting without squeezing repeats."
    Job.complain s!"Try '{name} --help' for more information."
    return 1
  | [one, two], false, squeezes =>
    let second := Filter.setOf two
    let bytes := Filter.replaced (set one) second (← Job.readAll 0)
    print name (if squeezes then Filter.squeezed second bytes else bytes)
  | _ :: _ :: extra :: _, _, _ => misuse name s!"extra operand {curly extra}" 1

/-- How wide the columns of counts are: as wide as the sizes of the files ask for, and wider if
something is counted that has no size. -/
def countWidth (sizes : List (Option Nat)) (columns : Nat) : Nat :=
  match sizes, columns with
  | [_], 1 => 1
  | sizes, _ =>
    let total := sizes.foldl (fun sum size => sum + size.getD 0) 0
    let least := if sizes.all (·.isSome) then 1 else 7
    max least (toString total).length

def wc : Tool := withSwitches "lwcmL" "" fun name switches => do
  let columns := (switches.given.map (·.1)).eraseDups
  let shows (letter : Char) : Bool :=
    columns.contains letter || (columns.isEmpty && "lwc".toList.contains letter)
  let process ← Job.process
  let disk := (← get).commons.disk
  let paths := if switches.operands.isEmpty then [""] else switches.operands
  let sizes ← paths.mapM fun path => do
    if path == "" || path == "-" then
      match process.channel? 0 with
      | some (.input number) => return ((← get).commons.input number).size
      | _ => return none
    else match disk.find process.here path with
      | .ok (_, .file bytes _) => return some bytes.length
      | .ok _ => return none
      | .error _ => return some 0
  let width := countWidth sizes (if columns.isEmpty then 3 else columns.length)
  let line (lines words bytes : Nat) (path : String) : String :=
    let shown := (if shows 'l' then [lines] else []) ++ (if shows 'w' then [words] else []) ++
      (if shows 'm' then [bytes] else []) ++ (if shows 'c' then [bytes] else [])
    " ".intercalate (shown.map (Filter.column width)) ++
      (if path.isEmpty then "" else " " ++ path) ++ "\n"
  let mut status := 0
  let mut total := (0, 0, 0)
  for path in paths do
    let source ← if path == "" || path == "-" then pure (.ok ((process.channel? 0).getD .nothing))
      else openToRead path
    match source with
    | .error cause =>
      Job.complain (s!"{name}: " ++ plainly path cause)
      status := 1
      if cause = .isDirectory then
        status := max status (← printText name (line 0 0 0 path))
    | .ok channel =>
      let channels := (0, channel) :: process.channels.filter (·.1 != 0)
      let bytes ← Job.withChannels channels (Job.readAll 0)
      let found := (bytes.count 10, Filter.wordCount bytes, bytes.length)
      total := (total.1 + found.1, total.2.1 + found.2.1, total.2.2 + found.2.2)
      status := max status (← printText name (line found.1 found.2.1 found.2.2 path))
  if paths.length > 1 then
    status := max status (← printText name (line total.1 total.2.1 total.2.2 "total"))
  return status

def leadingNumber (line : List UInt8) : Int :=
  let line := line.dropWhile Filter.isBlank
  let digits := (if line.head? = some 45 then line.drop 1 else line).takeWhile fun b =>
    48 ≤ b && b ≤ 57
  let n : Nat := digits.foldl (fun n b => n * 10 + (b.toNat - 48)) 0
  if line.head? = some 45 then -(n : Int) else n

def withoutRepeats (same : List UInt8 → List UInt8 → Bool) (lines : List (List UInt8)) :
    List (List UInt8) :=
  (lines.foldl (fun (kept : List (List UInt8)) line =>
    if (kept.head?.map (same line)).getD false then kept else line :: kept) []).reverse

def sort : Tool := withSwitches "nrusfb" "" fun name switches => do
  let mut all : List (List UInt8) := []
  let process ← Job.process
  for path in if switches.operands.isEmpty then ["-"] else switches.operands do
    let source ← if path == "-" then pure (.ok ((process.channel? 0).getD .nothing))
      else openToRead path
    match source with
    | .error .isDirectory => return ← fail name s!"read failed: {seen path}: Is a directory" 2
    | .error cause => return ← fail name s!"cannot read: {seen path}: {cause.words}" 2
    | .ok channel =>
      let channels := (0, channel) :: process.channels.filter (·.1 != 0)
      let bytes ← Job.withChannels channels (Job.readAll 0)
      all := all ++ Filter.lines bytes
  let byNumber := switches.has 'n'
  let le (a b : List UInt8) : Bool :=
    if byNumber && leadingNumber a != leadingNumber b then leadingNumber a < leadingNumber b
    else (byNumber && switches.has 'u') || Filter.bytesLe a b
  let sorted := if switches.has 'r' then all.mergeSort fun a b => le b a else all.mergeSort le
  let same (a b : List UInt8) : Bool :=
    if byNumber then leadingNumber a = leadingNumber b else a = b
  let kept := if switches.has 'u' then withoutRepeats same sorted else sorted
  print name (Filter.joined kept)

def uniq : Tool := withSwitches "c" "" fun name switches => do
  onFiles (switches.operands.take 1) fun path => onFile (plainly path) name path do
    let lines := Filter.lines (← Job.readAll 0)
    print name (Filter.joined (withoutRepeats (· = ·) lines))

def tee : Tool := withSwitches "ai" "" fun name switches => do
  let mut status := 0
  let mut channels : List Channel := []
  for path in switches.operands do
    match ← openToWrite (switches.has 'a') path with
    | .error cause => status := max status (← fail name (plainly path cause) 1)
    | .ok channel => channels := channels ++ [channel]
  let input ← Job.pieces 0
  for (time, bytes) in input.pieces do
    Job.waitUntil time
    status := max status (← print name bytes)
    let process ← Job.process
    for channel in channels do
      Job.alterCommons (·.write process.number process.time channel bytes)
  Job.waitUntil input.ended
  return status

/-- How much of endless output is written before nobody reads it any more. -/
def endlessSize : Nat := 65536

def yes : Tool := withSwitches "" "" fun name switches => do
  let line := Shell.Format.bytesOf
    ((if switches.operands.isEmpty then "y" else " ".intercalate switches.operands) ++ "\n")
  let _ ← print name (List.replicate (endlessSize / line.length + 1) line).flatten
  Job.waitUntil forever
  return 1

def numbersTo (room : Nat) (from' step last : Int) : List Int :=
  match room with
  | 0 => []
  | room + 1 =>
    if (0 < step && from' ≤ last) || (step < 0 && last ≤ from') then
      from' :: numbersTo room (from' + step) step last
    else []

def seq : Tool := fun name arguments => do
  let rec switches (between : String) (wide : Bool) : List String → String × Bool × List String
    | "-s" :: text :: rest => switches text wide rest
    | "-w" :: rest => switches between true rest
    | word :: rest =>
      if word.startsWith "-s" then switches (word.drop 2).toString wide rest
      else (between, wide, word :: rest)
    | [] => (between, wide, [])
  let (between, wide, operands) := switches "\n" false arguments
  match operands.find? (·.toInt?.isNone) with
  | some text => misuse name s!"invalid floating point argument: {curly text}" 1
  | none =>
    let rows : Option (Int × Int × Int) :=
      match operands.filterMap (·.toInt?) with
      | [last] => some (1, 1, last)
      | [first, last] => some (first, 1, last)
      | [first, step, last] => some (first, step, last)
      | _ => none
    match rows, operands with
    | none, [] => misuse name "missing operand" 1
    | none, operands =>
      misuse name s!"extra operand {curly ((operands.drop 3).headD default)}" 1
    | some (first, step, last), operands =>
      if step = 0 then
        misuse name s!"invalid Zero increment value: {curly ((operands.drop 1).headD default)}" 1
      else
        let numbers := numbersTo ((last - first).natAbs + 1) first step last
        let texts := numbers.map toString
        let width := texts.foldl (fun width text => max width text.length) 0
        let shown := if wide then texts.map fun text =>
            String.ofList (List.replicate (width - text.length) '0') ++ text else texts
        if shown.isEmpty then return 0
        else printText name (between.intercalate shown ++ "\n")

end Rollout.Machine.Tool
