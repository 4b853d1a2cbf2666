import Rollout.Cli.Program
import Rollout.Machine.Furnished
import Rollout.Machine.Launch

/-!
The command line, in rehearsal.

The program sees the environment, the time, the working directory with all that is below it, and
standard input. Its commands are run by the machine of this library on a copy of the disk, so that a
rehearsal starts nothing and changes nothing.
-/

set_option autoImplicit false
set_option relaxedAutoImplicit false

namespace Rollout.Main

/-- The bytes of a file, or none of them where it cannot be read. -/
def bytesOf (path : String) : IO (List UInt8) := do
  match ← (IO.FS.readBinFile path).toBaseIO with
  | .ok bytes => return bytes.toList
  | .error _ => return []

def placeOf (path : String) : Place := (Disk.namesOf path).filter (!·.isEmpty)

/-- Copy a directory and what is below it; files are copied as ones that may be run. -/
partial def copy (disk : Disk) (path : String) : IO Disk := do
  let directory ← IO.FS.realPath path
  let mut disk := disk
  for entry in ← directory.readDir do
    let place := placeOf path ++ [entry.fileName]
    match (← entry.path.symlinkMetadata).type with
    | .dir => disk ← copy (disk.put place (.directory 0o755)) entry.path.toString
    | .file => disk := disk.put place (.file (← bytesOf entry.path.toString) 0o755)
    | .symlink =>
      if let .ok target ← (IO.FS.realPath entry.path).toBaseIO then
        disk := disk.put place (.link target.toString)
    | .other => disk := disk.put place (.device entry.fileName)
  return disk

def variablesIn (bytes : List UInt8) : Environment :=
  let texts := (String.ofList (Text.Utf8.decodeLossy bytes)).splitOn "\x00"
  texts.filterMap fun text =>
    match text.splitOn "=" with
    | name :: rest@(_ :: _) => some (name, "=".intercalate rest)
    | _ => none

def now : IO Moment := do
  let time := (← (← IO.FS.realPath "/proc/self").metadata).modified
  return .ofSeconds time.sec.toNat (time.nsec.toNat / 1000)

def readsInput (arguments : List String) : Bool :=
  match Cli.read arguments with
  | .ok (.extract none) => true
  | _ => false

def situation (arguments : List String) : IO Cli.Situation := do
  let here := (← IO.currentDir).toString
  return {
    disk := ← copy (Machine.furnished (placeOf here)) here
    environment := variablesIn (← bytesOf "/proc/self/environ")
    now := ← now
    input := ← if readsInput arguments then bytesOf "/dev/stdin" else pure [] }

def write (stream : IO.FS.Stream) (bytes : List UInt8) : IO Unit := do
  stream.write ⟨bytes.toArray⟩
  stream.flush

def rehearse (arguments : List String) : IO UInt32 := do
  let found ← situation arguments
  let world : Machine.World := ⟨found.disk, found.environment, [], []⟩
  let adopt (environment : Environment) (disk : Disk) (world : Machine.World) : Machine.World :=
    { world with environment := environment, disk := disk }
  let ran := Cli.program Machine.host adopt found arguments ⟨.start found.disk, world⟩
  let wording : Log.Wording := ⟨found.now.stamp, fun _ => "Fault", Fault.message⟩
  let written := Cli.Transcript.ofRan wording ran
  let out ← IO.getStdout
  let err ← IO.getStderr
  write out (ran.state.world.out ++ Text.Utf8.encode written.out.toList)
  write err (ran.state.world.err ++ Text.Utf8.encode written.err.toList)
  match written.answer with
  | .ok code => return (code % 256).toNat.toUInt32
  | .error fault =>
    write err (Text.Utf8.encode (fault.message ++ "\n").toList)
    return 1

end Rollout.Main

def main (arguments : List String) : IO UInt32 := Rollout.Main.rehearse arguments
