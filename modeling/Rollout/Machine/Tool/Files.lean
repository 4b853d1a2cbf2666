import Rollout.Machine.Tool.Text

/-!
Programs that show and change the disk.
-/

set_option autoImplicit false
set_option relaxedAutoImplicit false

namespace Rollout.Machine.Tool

def around : Job (Disk × Place) := do
  let state ← get
  return (state.commons.disk, state.process.here)

def alterDisk (f : Disk → Disk) : Job Unit := Job.alterCommons fun m => { m with disk := f m.disk }

def lookUp (follow : Bool) (path : String) : Job (Except Disk.Cause (Place × Entry)) := do
  let (disk, here) ← around
  match disk.locate follow here path with
  | .error cause => return .error cause
  | .ok (_, none) => return .error .absent
  | .ok (place, some entry) => return .ok (place, entry)

def lastName (path : String) : String :=
  let cs := path.toList.reverse.dropWhile (· == '/')
  if cs.isEmpty && !path.isEmpty then "/" else String.ofList (cs.takeWhile (· != '/')).reverse

def beforeLast (path : String) : String :=
  let cs := path.toList.reverse.dropWhile (· == '/')
  let rest := cs.dropWhile (· != '/')
  let kept := (rest.dropWhile (· == '/')).reverse
  if kept.isEmpty then (if path.startsWith "/" then "/" else ".") else String.ofList kept

def basename : Tool := withSwitches "" "s" fun name switches =>
  let cut (path ending : String) : String :=
    let last := lastName path
    if last.endsWith ending && last != ending then (last.dropEnd ending.length).toString else last
  match switches.operands, switches.value? 's' with
  | [], _ => misuse name "missing operand" 1
  | paths, some ending => printText name ("".intercalate (paths.map (cut · ending ++ "\n")))
  | [path], none => printText name (lastName path ++ "\n")
  | [path, ending], none => printText name (cut path ending ++ "\n")
  | _ :: _ :: extra :: _, none => misuse name s!"extra operand {curly extra}" 1

def dirname : Tool := withSwitches "" "" fun name switches =>
  if switches.operands.isEmpty then misuse name "missing operand" 1
  else printText name ("".intercalate (switches.operands.map (beforeLast · ++ "\n")))

def sortedNames (disk : Disk) (place : Place) : List String :=
  (disk.namesIn place).mergeSort fun a b => !decide (b < a)

def ls : Tool := withSwitches "aAd1l" "" fun name switches => do
  let paths := if switches.operands.isEmpty then ["."] else switches.operands
  let paths := paths.mergeSort fun a b => !decide (b < a)
  let mut status := 0
  let mut files : List String := []
  let mut directories : List (String × Place) := []
  for path in paths do
    let followed ← lookUp true path
    let found ← if followed.toOption.isSome then pure followed else lookUp false path
    match found with
    | .error cause =>
      status := max status (← fail name s!"cannot access {straight path}: {cause.words}" 2)
    | .ok (place, .directory _) =>
      if switches.has 'd' then files := files ++ [path]
      else directories := directories ++ [(path, place)]
    | .ok _ => files := files ++ [path]
  let (disk, _) ← around
  let listing (place : Place) : List String :=
    let names := sortedNames disk place
    let names := if switches.has 'a' then [".", ".."] ++ names else names
    if switches.has 'a' || switches.has 'A' then names
    else names.filter fun name => !name.startsWith "."
  let listed (names : List String) : String := "".intercalate (names.map (· ++ "\n"))
  let titled := paths.length > 1
  let first := if files.isEmpty then [] else [listed files]
  let blocks := first ++ directories.map fun (path, place) =>
    (if titled then path ++ ":\n" else "") ++ listed (listing place)
  let text := "\n".intercalate blocks
  if !text.isEmpty then status := max status (← printText name text)
  return status

/-- Do something for each operand; the answer is the greatest status. -/
def forEach (operands : List String) (job : String → Job Nat) : Job Nat :=
  operands.foldlM (fun status path => do return max status (← job path)) 0

/-- Make a directory; with `deep` also those above it, and none where there is one. -/
def makeDirectory (deep : Bool) (path : String) : Job (Except Disk.Cause Unit) := do
  let (disk, here) ← around
  let mode := (← Job.process).modeFor 0o777
  let make (place : Place) : Job Unit := alterDisk (·.put place (.directory mode))
  if deep then
    let names := (Disk.namesOf path).filter (!·.isEmpty)
    let start : Place := if Disk.fromTop path then [] else here
    let mut base := start
    for name in names do
      let disk := (← around).1
      match disk.locate true base name with
      | .error cause => return .error cause
      | .ok (place, none) => make place; base := place
      | .ok (place, some (.directory _)) => base := place
      | .ok _ => return .error .notDirectory
    return if path.isEmpty then .error .absent else .ok ()
  else
    match disk.locate false here path with
    | .error cause => return .error cause
    | .ok (place, none) => make place; return .ok ()
    | .ok _ => return .error .invalid

def mkdir : Tool := withSwitches "pv" "m" fun name switches =>
  if switches.operands.isEmpty then misuse name "missing operand" 1
  else forEach switches.operands fun path => do
    match ← makeDirectory (switches.has 'p') path with
    | .ok () => return 0
    | .error .invalid => fail name s!"cannot create directory {curly path}: File exists" 1
    | .error cause => fail name s!"cannot create directory {curly path}: {cause.words}" 1

def rmdir : Tool := withSwitches "pv" "" fun name switches =>
  if switches.operands.isEmpty then misuse name "missing operand" 1
  else forEach switches.operands fun path => do
    let refuse (words : String) : Job Nat :=
      fail name s!"failed to remove {straight path}: {words}" 1
    match ← lookUp false path with
    | .error cause => refuse cause.words
    | .ok (place, .directory _) =>
      if ((← around).1.namesIn place).isEmpty then
        alterDisk (·.remove place)
        return 0
      else refuse "Directory not empty"
    | .ok _ => refuse "Not a directory"

def rm : Tool := withSwitches "frRvd" "" fun name switches =>
  if switches.operands.isEmpty && !switches.has 'f' then misuse name "missing operand" 1
  else forEach switches.operands fun path => do
    let refuse (words : String) : Job Nat := fail name s!"cannot remove {straight path}: {words}" 1
    match ← lookUp false path with
    | .error cause =>
      if switches.has 'f' && (cause = .absent || cause = .notDirectory) then return 0
      else refuse cause.words
    | .ok (place, .directory _) =>
      if switches.has 'r' || switches.has 'R' then
        alterDisk (·.remove place)
        return 0
      else refuse "Is a directory"
    | .ok (place, _) =>
      alterDisk (·.remove place)
      return 0

def touch : Tool := withSwitches "cam" "dtr" fun name switches =>
  if switches.operands.isEmpty then misuse name "missing file operand" 1
  else forEach switches.operands fun path => do
    let (disk, here) ← around
    match disk.locate true here path with
    | .error cause => fail name s!"cannot touch {straight path}: {cause.words}" 1
    | .ok (place, none) =>
      let mode := (← Job.process).modeFor 0o666
      if !switches.has 'c' then alterDisk (·.put place (.file [] mode))
      return 0
    | .ok _ => return 0

def copied (disk : Disk) (source target : Place) : Disk :=
  (disk.entries.filter fun entry => source.isPrefixOf entry.1).foldl (fun disk (place, entry) =>
    disk.put (target ++ place.drop source.length) entry) disk

/-- Where something goes that is given a path: below it, if it is a directory. -/
def destination (source path : String) : Job (Except Disk.Cause Place) := do
  let (disk, here) ← around
  match disk.locate true here path with
  | .error cause => return .error cause
  | .ok (place, some (.directory _)) => return .ok (place ++ [lastName source])
  | .ok (place, _) => return .ok place

def transfer (moves : Bool) : Tool := withSwitches "rRafpvint" "" fun name switches =>
  match switches.operands.reverse with
  | [] => misuse name "missing file operand" 1
  | [one] => misuse name s!"missing destination file operand after {straight one}" 1
  | target :: sources => forEach sources.reverse fun source => do
    match ← lookUp (!moves) source, ← destination source target with
    | .error cause, _ => fail name s!"cannot stat {straight source}: {cause.words}" 1
    | .ok _, .error cause =>
      fail name (if moves then s!"cannot move {straight source} to {straight target}: {cause.words}"
        else s!"cannot create regular file {straight target}: {cause.words}") 1
    | .ok (place, entry), .ok goal =>
      let deep := moves || switches.has 'r' || switches.has 'R' || switches.has 'a'
      match entry, deep with
      | .directory _, false =>
        fail name s!"-r not specified; omitting directory {straight source}" 1
      | _, _ =>
        if place = goal then
          fail name s!"{straight source} and {straight target} are the same file" 1
        else
          alterDisk fun disk =>
            let disk := copied disk place goal
            if moves then disk.remove place else disk
          return 0

/-- Make links. Only links by name are made; other links are copies. -/
def ln : Tool := withSwitches "sfnv" "" fun name switches =>
  match switches.operands with
  | [target, path] => do
    let (disk, here) ← around
    match ← destination target path with
    | .error cause => fail name s!"failed to create link {straight path}: {cause.words}" 1
    | .ok place =>
      if (disk.entryAt place).isSome && !switches.has 'f' then
        fail name s!"failed to create symbolic link {straight path}: File exists" 1
      else if switches.has 's' then
        alterDisk (·.put place (.link target))
        return 0
      else match disk.find here target with
        | .error cause => fail name s!"failed to access {straight target}: {cause.words}" 1
        | .ok (source, _) =>
          alterDisk (copied · source place)
          return 0
  | _ => misuse name "missing file operand" 1

def mode? (old : Nat) (text : String) : Option Nat :=
  if !text.isEmpty && text.all (fun c => '0' ≤ c && c ≤ '7') then
    some (text.toList.foldl (fun n c => n * 8 + (c.toNat - '0'.toNat)) 0)
  else if text == "+x" || text == "a+x" then some (old ||| 0o111)
  else if text == "u+x" then some (old ||| 0o100)
  else if text == "-x" || text == "a-x" then some (old - (old &&& 0o111))
  else if ["+r", "+w", "-r", "-w", "a+r", "u+w", "u+r", "a-w"].contains text then some old
  else none

def chmod : Tool := fun name arguments =>
  match arguments.filter (· != "-R") with
  | [] => misuse name "missing operand" 1
  | [mode] => misuse name s!"missing operand after {curly mode}" 1
  | text :: paths =>
    if (mode? 0 text).isNone then misuse name s!"invalid mode: {curly text}" 1
    else forEach paths fun path => do
      match ← lookUp true path with
      | .error cause => fail name s!"cannot access {straight path}: {cause.words}" 1
      | .ok (place, .file bytes old) =>
        alterDisk (·.put place (.file bytes ((mode? old text).getD old)))
        return 0
      | .ok (place, .directory old) =>
        alterDisk (·.put place (.directory ((mode? old text).getD old)))
        return 0
      | .ok _ => return 0

def readlink : Tool := withSwitches "fnq" "" fun name switches =>
  forEach switches.operands fun path => do
    let (disk, here) ← around
    if switches.has 'f' then
      match disk.locate true here path with
      | .ok (place, _) => printText name ("/" ++ "/".intercalate place ++ "\n")
      | .error _ => return 1
    else match ← lookUp false path with
      | .ok (_, .link target) => printText name (target ++ "\n")
      | _ => return 1

end Rollout.Machine.Tool
