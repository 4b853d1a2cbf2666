/-!
Splitting a command line into words.

Words are separated by runs of spaces, tabs and line ends. Apostrophes keep everything between
them; double quotes keep everything but a backslash before a double quote or a backslash; outside
quotes a backslash keeps the next character. A quoted piece counts as part of a word even when it
is empty, so a pair of quotes alone is a word. There are no comments and no substitutions.
-/

set_option autoImplicit false
set_option relaxedAutoImplicit false

namespace Rollout.Text.Words

/-- Why a command line is not a row of words. -/
inductive Fault
  | unclosedQuote
  | danglingEscape
  deriving DecidableEq, Repr

def Fault.message : Fault → String
  | .unclosedQuote => "No closing quotation"
  | .danglingEscape => "No escaped character"

inductive Mode
  | gap
  | bare
  | quote (mark : Char)
  | escape (mark : Option Char)
  deriving DecidableEq, Repr

def isSeparator (c : Char) : Bool := c == ' ' || c == '\t' || c == '\r' || c == '\n'

def isQuote (c : Char) : Bool := c == '\x27' || c == '"'

/-- Read on in the given mode; `word` holds the current word backwards. -/
def read : Mode → List Char → List Char → Except Fault (List (List Char))
  | .gap, _, [] => .ok []
  | .bare, word, [] => .ok [word.reverse]
  | .quote _, _, [] => .error .unclosedQuote
  | .escape _, _, [] => .error .danglingEscape
  | .gap, word, c :: rest =>
    if isSeparator c then read .gap word rest
    else if c == '\\' then read (.escape none) [] rest
    else if isQuote c then read (.quote c) [] rest
    else read .bare [c] rest
  | .bare, word, c :: rest =>
    if isSeparator c then (read .gap [] rest).map (word.reverse :: ·)
    else if c == '\\' then read (.escape none) word rest
    else if isQuote c then read (.quote c) word rest
    else read .bare (c :: word) rest
  | .quote mark, word, c :: rest =>
    if c == mark then read .bare word rest
    else if c == '\\' && mark == '"' then read (.escape (some mark)) word rest
    else read (.quote mark) (c :: word) rest
  | .escape none, word, c :: rest => read .bare (c :: word) rest
  | .escape (some mark), word, c :: rest =>
    if c == '\\' || c == mark then read (.quote mark) (c :: word) rest
    else read (.quote mark) (c :: '\\' :: word) rest

def split (s : String) : Except Fault (List String) :=
  (read .gap [] s.toList).map (·.map String.ofList)

example : split "a 'b c'\"d\" ''" = .ok ["a", "b cd", ""] := rfl

example : split "a\\" = .error .danglingEscape := rfl

end Rollout.Text.Words
