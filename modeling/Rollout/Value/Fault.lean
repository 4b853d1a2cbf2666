import Rollout.Calendar
import Rollout.Number.Numeral
import Rollout.Text.Codes

/-!
Why a value cannot be formed from its text, or cannot be turned into another kind of value.
-/

set_option autoImplicit false
set_option relaxedAutoImplicit false

namespace Rollout.Value

inductive Fault
  | tooLongToShow
  | tooDeepToShow
  | tooLongToRead (digits : Nat)
  | overflow
  | notWhole (base : Nat) (codes : Text.Codes)
  | notDecimal (codes : Text.Codes)
  | notTruth (word : String)
  | emptyNumeral
  | notMoment
  | notCodePoint
  | codeTooLarge
  | endless
  | momentOfMany
  | calendar (fault : Calendar.Fault)
  deriving DecidableEq, Repr

/-- How many characters of a quoted text are told where it is no whole numeral. -/
def toldLength : Nat := 200

def Fault.message : Fault → String
  | .tooLongToShow =>
    s!"Exceeds the limit ({Number.digitLimit} digits) for integer string conversion; " ++
      "use sys.set_int_max_str_digits() to increase the limit"
  | .tooDeepToShow => "maximum recursion depth exceeded while getting the repr of an object"
  | .tooLongToRead digits =>
    s!"Exceeds the limit ({Number.digitLimit} digits) for integer string conversion: " ++
      s!"value has {digits} digits; use sys.set_int_max_str_digits() to increase the limit"
  | .overflow => "int too large to convert to float"
  | .notWhole base given =>
    s!"invalid literal for int() with base {base}: " ++
      String.ofList (given.quoted.toList.take toldLength)
  | .notDecimal given => s!"could not convert string to float: {given.quoted}"
  | .notTruth word => word
  | .emptyNumeral => "string index out of range"
  | .notMoment => "'NoneType' object has no attribute 'groupdict'"
  | .notCodePoint => "chr() arg not in range(0x110000)"
  | .codeTooLarge => "Python int too large to convert to C int"
  | .endless => "maximum recursion depth exceeded"
  | .momentOfMany => "expected string or bytes-like object, got 'list'"
  | .calendar fault => fault.message

end Rollout.Value
