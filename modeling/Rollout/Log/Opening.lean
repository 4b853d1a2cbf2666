import Rollout.Log.Setup
import Rollout.Text.Encoding

/-!
The files that handlers write to.

A file is opened under its path from the top. Its mode says what becomes of an old file of that
name; where there is none, it is made. The encoding is looked up only once the file is there.
-/

set_option autoImplicit false
set_option relaxedAutoImplicit false

namespace Rollout.Log

structure Opening where
  path : Path
  mode : Thing
  encoding : Thing
  errors : Thing

namespace Opening

def usualEncoding : String := "locale"

def pathText (thing : Thing) : Except Misuse String :=
  match thing with
  | .value (.bytes bytes) => .ok (String.ofList (Text.Utf8.decodeLossy bytes))
  | thing =>
    match thing.text? with
    | some text => .ok text
    | none => .error (.notPath thing.kind)

def fromTop (here : Place) (text : String) : Path :=
  let path := Path.ofString text
  let whole := if path.isAbsolute then path else ⟨.absolute, here ++ path.parts⟩
  ⟨whole.root, Disk.cancel [] whole.parts⟩

/-- Whether a mode is one of bytes; what has no members cannot be asked. -/
def isOfBytes (mode : Thing) : Except Misuse Bool :=
  match mode.codes?, mode.members? with
  | some codes, _ => .ok (codes.contains 'b'.toNat)
  | none, some members => .ok (members.any (·.sameKey (.text "b")))
  | none, none => .error (.notSearchable mode.kind)

def modeChars : List Char := ['x', 'r', 'w', 'a', 'b', 't', '+']

def ways : List Char := ['x', 'r', 'w', 'a']

def checkMode (mode : String) (hasEncoding hasErrors : Bool) : Except Refusal Unit :=
  let cs := mode.toList
  let isOfBytes := cs.contains 'b'
  if cs.any (!modeChars.contains ·) || cs.any (cs.count · > 1) then .error (.badMode mode)
  else if isOfBytes && cs.contains 't' then .error .mixedMode
  else if (cs.filter ways.contains).length > 1 then .error .severalModes
  else if isOfBytes && hasEncoding then .error .bytesEncoding
  else if isOfBytes && hasErrors then .error .bytesErrors
  else if (cs.filter ways.contains).isEmpty then .error .noMode
  else .ok ()

def openOn (disk : Disk) (path : Path) (way : Char) : Except Disk.Fault Disk :=
  let refuse (cause : Disk.Cause) : Except Disk.Fault Disk := .error ⟨cause, some path.toString⟩
  match disk.locate true disk.here path.toString with
  | .error cause => refuse cause
  | .ok (place, entry?) =>
    match entry?, way with
    | some _, 'x' => refuse .taken
    | some (.directory _), _ => refuse .isDirectory
    | some (.file _ mode), 'w' => .ok (disk.put place (.file [] mode))
    | some _, _ => .ok disk
    | none, 'r' => refuse .absent
    | none, _ => .ok (disk.put place (.file [] 0o644))

def textOrNull (name : String) (thing : Thing) : Setup (Option String) :=
  match thing, thing.text? with
  | .value .null, _ => pure none
  | _, some text => if text.contains '\x00' then Setup.refuse .nullEncoding else pure (some text)
  | _, none => Setup.misuse (.notTextOrNull name thing.kind)

def checkEncoding (encoding? : Option String) : Setup Unit :=
  match encoding? with
  | none => pure ()
  | some name =>
    if name == usualEncoding || Text.isEncoding name then pure ()
    else if Text.isOtherEncoding name then Setup.fail (.notTextual name)
    else Setup.fail (.noEncoding name)

def perform (opening : Opening) : Setup Unit := do
  let some mode := opening.mode.text? | Setup.misuse (.notMode opening.mode.kind)
  if mode.contains '\x00' then Setup.refuse .nullEncoding
  let encoding? ← textOrNull "encoding" opening.encoding
  let errors? ← textOrNull "errors" opening.errors
  match checkMode mode encoding?.isSome errors?.isSome with
  | .error refusal => Setup.refuse refusal
  | .ok () => pure ()
  if opening.path.toString.contains '\x00' then Setup.refuse .nullCharacter
  let way := (mode.toList.find? ways.contains).getD 'a'
  match openOn (← get).disk opening.path way with
  | .error fault => throw (.disk fault)
  | .ok disk => modify ({ · with disk := disk })
  checkEncoding encoding?

/-- The work of a handler that opens its file now, or only for its first record if it may wait; a
file that cannot be opened later blocks the record. -/
def work (opening : Opening) (waits : Bool) : Setup Work := do
  if waits then
    let site ← get
    match (opening.perform.run.run site).1 with
    | .ok () => return .pass
    | .error fault => return .blocked fault
  else
    opening.perform
    return .pass

example : (checkMode "aw" false false).toOption = none := by decide +kernel

end Opening

end Rollout.Log
