import Rollout.Disk

/-!
What is started when a file is run.

A program of the system is started as it is. Another file must be executable and must name its
interpreter in its first line; the interpreter is started with the file's path as an argument.
-/

set_option autoImplicit false
set_option relaxedAutoImplicit false

namespace Rollout.Machine

/-- A program of the system, and the words that take the place of the name that it was run by, if
there are any. -/
structure Image where
  program : String
  front : List String
  deriving DecidableEq, Repr

def firstLineLimit : Nat := 255

def interpreterLimit : Nat := 5

def isExecutable (mode : Nat) : Bool := mode % 2 = 1 || mode / 8 % 2 = 1 || mode / 64 % 2 = 1

def isGap (b : UInt8) : Bool := b == 32 || b == 9

/-- The interpreter that a file names, with the argument that it gives. A name that is cut off by
the limit of the line does not count, and where the file ends before the name, it is the
directory. -/
def interpreter? (bytes : List UInt8) : Option (String × List String) :=
  match bytes with
  | 35 :: 33 :: rest =>
    let read := rest.take firstLineLimit
    let ended := read.contains 10 || rest.length < firstLineLimit
    let line := (read.takeWhile (· != 10)).dropWhile isGap
    let name := line.takeWhile (!isGap ·)
    let argument := ((line.drop name.length).dropWhile isGap).reverse.dropWhile isGap |>.reverse
    let text (bytes : List UInt8) : String := String.ofList (Text.Utf8.decodeLossy bytes)
    if name.isEmpty then if ended && !read.contains 10 then some (".", []) else none
    else if !ended && name.length = line.length then none
    else some (text name, if argument.isEmpty then [] else [text argument])
  | _ => none

def image (disk : Disk) (base : Place) (room : Nat) (path : String) : Except Disk.Cause Image :=
  match disk.find base path with
  | .error cause => .error cause
  | .ok (_, .program name) => .ok ⟨name, []⟩
  | .ok (_, .file bytes mode) =>
    if !isExecutable mode then .error .barred
    else match interpreter? bytes, room with
      | none, _ => .error .unrecognised
      | some _, 0 => .error .linkLoop
      | some (name, front), room + 1 => do
        let inner ← image disk base room name
        let called := if inner.front.isEmpty then [name] else inner.front
        return ⟨inner.program, called ++ front ++ [path]⟩
  | .ok _ => .error .barred

def Image.words (image : Image) (argv : List String) : List String :=
  if image.front.isEmpty then argv else image.front ++ argv.tail

/-- The paths under which a name is looked for: itself if it has a slash, else one in each directory
of the search path. -/
def searchPaths (search name : String) : List String :=
  if name.contains '/' then [name]
  else ((search.splitOn ":").map fun directory =>
    if directory.isEmpty then name
    else if directory.endsWith "/" then directory ++ name
    else directory ++ "/" ++ name)

/-- What is started for a name, tried under one path after another. Of the causes for which none can
be started, the first counts that is not mere absence. -/
def search (disk : Disk) (base : Place) : List String → Except Disk.Cause Image
  | [] => .error .absent
  | path :: rest =>
    match image disk base interpreterLimit path with
    | .ok found => .ok found
    | .error cause =>
      let isAbsence := cause = .absent || cause = .notDirectory
      match search disk base rest with
      | .ok found => .ok found
      | .error later => .error (if isAbsence && !rest.isEmpty then later else cause)

end Rollout.Machine
