import Rollout.Text.Printable
import Rollout.Text.Quoted

/-!
Why a text is no expression.

A fault has a cause and the line at which it is told.
-/

set_option autoImplicit false
set_option relaxedAutoImplicit false

namespace Rollout.Log.Expression

inductive Escape
  | cut (form : String)
  | noCharacter
  | noName
  | unknownName
  deriving DecidableEq, Repr

def Escape.words : Escape → String
  | .cut form => s!"truncated {form} escape"
  | .noCharacter => "illegal Unicode character"
  | .noName => "malformed \\N character escape"
  | .unknownName => "unknown Unicode character name"

/-- Causes for which a text is no expression. -/
inductive Cause
  | malformed
  | comma
  | equals
  | assignment (part : String)
  | namedAssignment
  | wordAssignment (word : String)
  | noElse
  | unclosed (bracket : Char)
  | unmatched (bracket : Char)
  | mismatched (closing opening : Char) (line : Option Nat)
  | tooDeep
  | unterminated (line : Nat)
  | unterminatedBlock (line : Nat)
  | numeral (base : String)
  | digit (figure : Char) (base : String)
  | leadingZeros
  | character (c : Char)
  | continuation
  | endOfText
  | escape (first last : Nat) (why : Escape)
  | byteEscape (position : Nat)
  | byteCharacter
  | mixedTexts
  | loneStar
  | loneStars
  | noColon
  | noHeld
  | starHeld
  | positionAfterName
  | positionAfterStars
  | starAfterStars
  | nameTwice (name : String)
  | noParentheses (name : String)
  deriving DecidableEq, Repr

def Cause.words : Cause → String
  | .malformed => "invalid syntax"
  | .comma => "invalid syntax. Perhaps you forgot a comma?"
  | .equals => "invalid syntax. Maybe you meant '==' or ':=' instead of '='?"
  | .assignment part => s!"cannot assign to {part} here. Maybe you meant '==' instead of '='?"
  | .namedAssignment => "expression cannot contain assignment, perhaps you meant \"==\"?"
  | .wordAssignment word => s!"cannot assign to {word}"
  | .noElse => "expected 'else' after 'if' expression"
  | .unclosed bracket => s!"'{bracket}' was never closed"
  | .unmatched bracket => s!"unmatched '{bracket}'"
  | .mismatched closing opening line =>
    s!"closing parenthesis '{closing}' does not match opening parenthesis '{opening}'" ++
      match line with
      | none => ""
      | some line => s!" on line {line}"
  | .tooDeep => "too many nested parentheses"
  | .unterminated line => s!"unterminated string literal (detected at line {line})"
  | .unterminatedBlock line =>
    s!"unterminated triple-quoted string literal (detected at line {line})"
  | .numeral base => s!"invalid {base} literal"
  | .digit figure base => s!"invalid digit '{figure}' in {base} literal"
  | .leadingZeros =>
    "leading zeros in decimal integer literals are not permitted; " ++
      "use an 0o prefix for octal integers"
  | .character c =>
    let code := "U+" ++ (String.ofList (Text.hex 4 c.toNat)).map Char.toUpper
    if Text.isPrintable c then s!"invalid character '{c}' ({code})"
    else s!"invalid non-printable character {code}"
  | .continuation => "unexpected character after line continuation character"
  | .endOfText => "unexpected EOF while parsing"
  | .escape first last why =>
    s!"(unicode error) 'unicodeescape' codec can't decode bytes in position {first}-{last}: " ++
      why.words
  | .byteEscape position => s!"(value error) invalid \\x escape at position {position}"
  | .byteCharacter => "bytes can only contain ASCII literal characters"
  | .mixedTexts => "cannot mix bytes and nonbytes literals"
  | .loneStar => "cannot use starred expression here"
  | .loneStars => "cannot use double starred expression here"
  | .noColon => "':' expected after dictionary key"
  | .noHeld => "expression expected after dictionary key and ':'"
  | .starHeld => "cannot use a starred expression in a dictionary value"
  | .positionAfterName => "positional argument follows keyword argument"
  | .positionAfterStars => "positional argument follows keyword argument unpacking"
  | .starAfterStars => "iterable argument unpacking follows keyword argument unpacking"
  | .nameTwice name => s!"keyword argument repeated: {name}"
  | .noParentheses name =>
    s!"Missing parentheses in call to '{name}'. Did you mean {name}(...)?"

structure Fault where
  cause : Cause
  line : Nat
  deriving DecidableEq, Repr

def Fault.message (fault : Fault) : String :=
  s!"{fault.cause.words} (<string>, line {fault.line})"

end Rollout.Log.Expression
