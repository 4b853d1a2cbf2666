import Rollout.Ini.Fault
import Rollout.Log.Expression.Fault
import Rollout.Log.Misuse

/-!
Why loggers cannot be set up as a settings file says.

Faults are of several sorts. Where one of the milder sorts comes up, the program goes on without the
settings.
-/

set_option autoImplicit false
set_option relaxedAutoImplicit false

namespace Rollout.Log

inductive Part
  | formatter
  | filter
  | handler
  | logger
  deriving DecidableEq, Repr

def Part.name : Part → String
  | .formatter => "formatter"
  | .filter => "filter"
  | .handler => "handler"
  | .logger => "logger"

/-- Why a thing of the right kind is refused. -/
inductive Refusal
  | noVersion
  | unknownVersion (shown : String)
  | noHandler (quoted : String)
  | badPart (part : Part) (quoted : String)
  | badRoot
  | entryLength (index length : Nat)
  | rootNotListed
  | unknownStyle
  | badLayout (words : String)
  | unresolved (name words : String)
  | emptyModule
  | notReference (text : String) (rest : Option String)
  | badMode (mode : String)
  | mixedMode
  | severalModes
  | noMode
  | bytesEncoding
  | bytesErrors
  | nullCharacter
  | nullEncoding
  | nullInExpression
  | badRollover (when : String)
  | noRolloverDay (when : String)
  | badRolloverDay (when : String)
  | badMethod
  | idleContext
  | tooFewParts (expected given : Nat)
  | tooManyParts (expected : Nat)
  | targetMissing
  | negativeShift
  deriving DecidableEq, Repr

def Refusal.message : Refusal → String
  | .noVersion => "dictionary doesn't specify a version"
  | .unknownVersion shown => s!"Unsupported version: {shown}"
  | .noHandler quoted => s!"No handler found with name {quoted}"
  | .badPart part quoted => s!"Unable to configure {part.name} {quoted}"
  | .badRoot => "Unable to configure root logger"
  | .entryLength index length =>
    s!"dictionary update sequence element #{index} has length {length}; 2 is required"
  | .rootNotListed => "list.remove(x): x not in list"
  | .unknownStyle => "Style must be one of: %,\x7b,$"
  | .badLayout words => words
  | .unresolved name words => s!"Cannot resolve {Text.quoted name}: {words}"
  | .emptyModule => "Empty module name"
  | .notReference text none => s!"Unable to convert {Text.quoted text}"
  | .notReference text (some rest) =>
    s!"Unable to convert {Text.quoted text} at {Text.quoted rest}"
  | .badMode mode => s!"invalid mode: {Text.quoted mode}"
  | .mixedMode => "can't have text and binary mode at once"
  | .severalModes => "must have exactly one of create/read/write/append mode"
  | .noMode => "Must have exactly one of create/read/write/append mode and at most one plus"
  | .bytesEncoding => "binary mode doesn't take an encoding argument"
  | .bytesErrors => "binary mode doesn't take an errors argument"
  | .nullCharacter => "embedded null byte"
  | .nullEncoding => "embedded null character"
  | .nullInExpression => "source code string cannot contain null bytes"
  | .badRollover when => s!"Invalid rollover interval specified: {when}"
  | .noRolloverDay when =>
    s!"You must specify a day for weekly rollover from 0 to 6 (0 is Monday): {when}"
  | .badRolloverDay when => s!"Invalid day specified for weekly rollover: {when}"
  | .badMethod => "method must be GET or POST"
  | .idleContext => "context parameter only makes sense with secure=True"
  | .tooFewParts expected given =>
    s!"not enough values to unpack (expected {expected}, got {given})"
  | .tooManyParts expected => s!"too many values to unpack (expected {expected})"
  | .targetMissing => "target not configured yet"
  | .negativeShift => "negative shift count"

inductive SetupFault
  | malformed (cause : String)
  | misuse (m : Misuse)
  | refused (r : Refusal)
  | missing (quoted : String)
  | noItem (row : String)
  | noName (name : String)
  | noPart (subject name : String)
  | noModule (name : String) (outer : Option String)
  | expression (fault : Expression.Fault)
  | noEncoding (name : String)
  | notTextual (name : String)
  | division (told : String)
  | ini (fault : Ini.Fault)
  | endless
  | bareHandler
  deriving DecidableEq, Repr

namespace SetupFault

def message : SetupFault → String
  | .malformed cause => cause
  | .misuse m => m.message
  | .refused r => r.message
  | .missing quoted => quoted
  | .noItem row => s!"{row}index out of range"
  | .noName name => s!"name {Text.quoted name} is not defined"
  | .noPart subject name => s!"{subject} has no attribute {Text.quoted name}"
  | .noModule name none => s!"No module named {Text.quoted name}"
  | .noModule name (some outer) =>
    s!"No module named {Text.quoted name}; {Text.quoted outer} is not a package"
  | .expression fault => fault.message
  | .noEncoding name => s!"unknown encoding: {name}"
  | .notTextual name =>
    s!"{Text.quoted name} is not a text encoding; use codecs.open() to handle arbitrary codecs"
  | .division told => told
  | .ini fault => fault.message
  | .endless => "maximum recursion depth exceeded"
  | .bareHandler => "emit must be implemented by Handler subclasses"

def isPassedOver : SetupFault → Bool
  | .malformed _ | .misuse _ | .refused _ | .missing _ => true
  | _ => false

end SetupFault

end Rollout.Log
