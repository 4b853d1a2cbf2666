import Rollout.Disk
import Rollout.Machine.Tool

/-!
A disk with the usual directories, devices and programs, and the laying of entries on it.
-/

set_option autoImplicit false
set_option relaxedAutoImplicit false

namespace Rollout

namespace Disk

/-- The place that names lead to from a directory, with the directories on the way made. -/
def makeWay (disk : Disk) (base : Place) : List String → Disk × Place
  | [] => (disk, base)
  | name :: rest =>
    if name = "" ∨ name = "." then makeWay disk base rest
    else if rest.isEmpty then (disk, base ++ [name])
    else
      let place :=
        match disk.locate true base name with
        | .ok (place, _) => place
        | .error _ => base ++ [name]
      let made :=
        if (disk.entryAt place).isSome then disk else disk.put place (.directory 0o755)
      makeWay made place rest

/-- Lay an entry where a path's text says. The directories on the way are made, and a file goes
where a link at the end leads. -/
def lay (disk : Disk) (text : String) (entry : Entry) : Disk :=
  let (disk, place) := disk.makeWay (if fromTop text then [] else disk.here) (namesOf text)
  match entry, disk.locate true [] ("/" ++ "/".intercalate place) with
  | .file _ _, .ok (reached, _) => disk.put reached entry
  | _, _ => disk.put place entry

end Disk

namespace Machine

def systemDirectories : List String := [
  "/bin", "/dev", "/etc", "/home", "/opt", "/proc", "/root", "/run", "/sbin", "/srv", "/sys",
  "/tmp", "/usr", "/usr/bin", "/usr/local", "/usr/local/bin", "/usr/sbin", "/var", "/var/tmp"]

def systemDevices : List String := ["null", "zero", "stdin", "stdout", "stderr"]

def furnished (here : Place) : Disk :=
  let bare : Disk := ⟨[], here⟩
  let housed := systemDirectories.foldl (fun disk text => disk.lay text (.directory 0o755)) bare
  let wired :=
    systemDevices.foldl (fun disk name => disk.lay s!"/dev/{name}" (.device name)) housed
  let stocked := programs.foldl (fun disk name =>
    (disk.lay s!"/bin/{name}" (.program name)).lay s!"/usr/bin/{name}" (.program name)) wired
  stocked.lay ("/" ++ "/".intercalate here) (.directory 0o755)

end Machine

end Rollout
