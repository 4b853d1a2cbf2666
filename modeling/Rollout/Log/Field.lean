import Rollout.Act
import Rollout.Log.Level
import Rollout.Text.Digit
import Rollout.Text.Letter

/-!
The fields of log records.

A layout shows the fields of a record by their names: its logger, its weight, its message and where
that comes from. The time of a record and the names of kinds of faults are words of the
surroundings.
-/

set_option autoImplicit false
set_option relaxedAutoImplicit false

namespace Rollout.Log

structure Wording where
  stamp : String
  kind : Fault → String
  trace : Fault → String

def fields (wording : Wording) (record : Record) : Entries Datum :=
  let message := record.message
  let level := message.level
  let origin := message.origin
  let nothing : Datum := .value .null
  [("name", .text record.logger),
    ("msg", .text message.template),
    ("args", .row message.arguments),
    ("levelname", .text level.name),
    ("levelno", .whole level.weight),
    ("filename", .text origin.file),
    ("module", .text (String.ofList (origin.file.toList.takeWhile (· != '.')))),
    ("funcName", .text origin.function),
    ("lineno", .whole origin.line),
    ("exc_info", nothing),
    ("exc_text", nothing),
    ("stack_info", nothing),
    ("threadName", .text "MainThread"),
    ("processName", .text "MainProcess"),
    ("message", .text message.text),
    ("asctime", .text wording.stamp)]

abbrev Fields := String → Option Datum

/-- The greatest width that fields are filled up to, and the greatest precision of numbers. -/
def fieldLimit : Nat := 2147483647

end Rollout.Log

namespace Rollout.Datum

def toInt? : Datum → Option Int
  | .value (.int i) => some i
  | .value (.bool b) => some (if b then 1 else 0)
  | _ => none

def toFloat? : Datum → Option Number.Binary64
  | .value (.float x) => some x
  | d => d.toInt?.bind Number.Binary64.ofInt?

end Rollout.Datum
