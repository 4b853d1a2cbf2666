import Rollout.Log.Expression.Fault
import Rollout.Text.Letter
import Rollout.Value

/-!
The tokens of expressions.

A token has its line and the number of brackets that are open behind it. Line ends count only where
no bracket is open. A fault of the tokens is a token itself, so that it is told only when the
reading comes to it.
-/

set_option autoImplicit false
set_option relaxedAutoImplicit false

namespace Rollout.Log.Expression

/-- A text between quotes as it is written: the letters before it and what stands between. -/
structure Literal where
  letters : List Char
  body : List Char
  deriving DecidableEq, Repr

inductive Token
  | word (s : String)
  | number (v : Value)
  | literal (l : Literal)
  | mark (s : String)
  | lineEnd
  | finish (open? : Option (Char × Nat))
  | fault (fault : Fault)
  deriving Inhabited

structure Placed where
  token : Token
  line : Nat
  depth : Nat
  isLast : Bool
  deriving Inhabited

namespace Tokens

/-- What a step of cutting leaves: a token and the characters behind it. -/
abbrev Cut := Except Cause (Token × List Char)

/-! ### Numerals -/

/-- Digits with single underscores between them, without these, and the rest. A numeral may not
end with an underscore. -/
def digits (isDigit : Char → Bool) (bad : Option Char → Cause) :
    List Char → Except Cause (List Char × List Char)
  | [] => .ok ([], [])
  | c :: rest =>
    if c == '_' then
      match rest with
      | d :: _ => if isDigit d then digits isDigit bad rest else .error (bad (some d))
      | [] => .error (bad none)
    else if isDigit c then (digits isDigit bad rest).map fun (ds, rest) => (c :: ds, rest)
    else .ok ([], c :: rest)

def isWordLike (c : Char) : Bool := Text.isWordChar c || c.toNat ≥ 128

/-- The words that may follow a numeral directly; some of them also as the start of longer ones. -/
def followers : List (String × Bool) := [
  ("and", false), ("else", false), ("for", false), ("if", true), ("in", true), ("is", true),
  ("or", false), ("not", false)]

/-- A numeral of a base ends before these characters, or it is none. -/
def checkEnd (base : String) (rest : List Char) : Except Cause Unit :=
  let isFollowed := followers.any fun (word, isOpen) =>
    word.toList.isPrefixOf rest && (isOpen || !(rest.drop word.length).head?.any isWordLike)
  if rest.head?.any (fun c => c.toNat < 128 && Text.isWordChar c) && !isFollowed then
    .error (.numeral base)
  else .ok ()

def valueIn (base : Nat) (ds : List Char) : Nat :=
  ds.foldl (fun n c => n * base + (Number.digitIn? base c).getD 0) 0

/-- Cut a numeral of a base behind its mark. -/
def based (name : String) (base : Nat) (cs : List Char) : Cut := do
  let isDigit (c : Char) : Bool := c.toNat < 128 && (Number.digitIn? base c).isSome
  let bad (c : Option Char) : Cause :=
    match c.filter Char.isDigit with
    | some c => .digit c name
    | none => .numeral name
  let cs := if cs.head? = some '_' then cs.drop 1 else cs
  if !cs.head?.any isDigit then throw (bad cs.head?)
  let (ds, rest) ← digits isDigit bad cs
  match rest.head?.filter Char.isDigit with
  | some c => throw (.digit c name)
  | none => pure ()
  checkEnd name rest
  return (.number (.int (valueIn base ds)), rest)

def decimalName : String := "decimal"

def decimals (cs : List Char) : Except Cause (List Char × List Char) :=
  digits Char.isDigit (fun _ => .numeral decimalName) cs

/-- The exponent at the start of characters, as it is written, and the rest. -/
def exponent (cs : List Char) : Except Cause (List Char × List Char) :=
  match cs with
  | e :: rest =>
    if e == 'e' || e == 'E' then
      match rest with
      | sign :: more =>
        if sign == '+' || sign == '-' then
          if more.head?.any Char.isDigit then
            (decimals more).map fun (ds, rest) => ('e' :: sign :: ds, rest)
          else .error (.numeral decimalName)
        else if sign.isDigit then (decimals rest).map fun (ds, rest) => ('e' :: ds, rest)
        else .ok ([], cs)
      | [] => .ok ([], cs)
    else .ok ([], cs)
  | [] => .ok ([], [])

/-- Cut a decimal numeral: a whole one, or one with a point or an exponent. -/
def decimal (cs : List Char) : Cut := do
  let (whole, rest) ← decimals cs
  let (point, rest) ←
    match rest with
    | '.' :: more =>
      if more.head?.any Char.isDigit then
        (decimals more).map fun (ds, rest) => ('.' :: ds, rest)
      else pure (['.'], more)
    | _ => pure ([], rest)
  let (exponent, rest) ← exponent rest
  if point.isEmpty && exponent.isEmpty then
    if whole.head? = some '0' && whole.any (· != '0') then throw .leadingZeros
    checkEnd decimalName rest
    return (.number (.int (valueIn 10 whole)), rest)
  checkEnd decimalName rest
  let written := String.ofList (whole ++ point ++ exponent)
  return (.number (.float ((Number.decimal? written).getD .nan)), rest)

def number (cs : List Char) : Cut :=
  match cs with
  | '0' :: mark :: rest =>
    match mark.toLower with
    | 'x' => based "hexadecimal" 16 rest
    | 'o' => based "octal" 8 rest
    | 'b' => based "binary" 2 rest
    | _ => decimal cs
  | _ => decimal cs

/-! ### Texts -/

/-- The letters that may stand before a text, in small letters. -/
def literalLetters : List String := ["", "r", "u", "b", "br", "rb", "f", "fr", "rf"]

/-- What stands before the quote that ends a text on its line, and the rest. -/
def lineBody (quote : Char) : List Char → Option (List Char × List Char)
  | [] => none
  | '\\' :: c :: rest => (lineBody quote rest).map fun (body, rest) => ('\\' :: c :: body, rest)
  | c :: rest =>
    if c == quote then some ([], rest)
    else if c == '\n' then none
    else (lineBody quote rest).map fun (body, rest) => (c :: body, rest)

/-- What stands before the three quotes that end a text of several lines, and the rest. -/
def blockBody (quote : Char) : List Char → Option (List Char × List Char)
  | [] => none
  | '\\' :: c :: rest => (blockBody quote rest).map fun (body, rest) => ('\\' :: c :: body, rest)
  | c :: rest =>
    if c == quote && (List.replicate 2 quote).isPrefixOf rest then some ([], rest.drop 2)
    else (blockBody quote rest).map fun (body, rest) => (c :: body, rest)

def lineEnds (cs : List Char) : Nat := cs.count '\n'

/-- Cut a text at its opening quote; `line` is the line of that. -/
def quotation (letters : List Char) (line : Nat) (quote : Char) (rest : List Char) : Cut :=
  if (List.replicate 2 quote).isPrefixOf rest then
    match blockBody quote (rest.drop 2) with
    | some (body, rest) => .ok (.literal ⟨letters, body⟩, rest)
    | none => .error (.unterminatedBlock (line + lineEnds rest))
  else
    match lineBody quote rest with
    | some (body, rest) => .ok (.literal ⟨letters, body⟩, rest)
    | none => .error (.unterminated line)

/-! ### Words and marks -/

def isQuote (c : Char) : Bool := c == '"' || c == Text.apostrophe

def word (line : Nat) (cs : List Char) : Cut :=
  let name := cs.takeWhile isWordLike
  let rest := cs.dropWhile isWordLike
  let small := name.map Char.toLower
  match rest with
  | quote :: more =>
    if isQuote quote && literalLetters.contains (String.ofList small) then
      quotation small line quote more
    else cutName name rest
  | [] => cutName name rest
where
  cutName (name rest : List Char) : Cut :=
    match name.find? (!Text.isWordChar ·) with
    | some c => .error (.character c)
    | none => .ok (.word (String.ofList name), rest)

def longMarks : List String := [
  "**=", "//=", ">>=", "<<=", "...", "**", "//", ">>", "<<", "<=", ">=", "==", "!=", "<>", "->",
  "+=", "-=", "*=", "/=", "%=", "&=", "|=", "^=", "@=", ":="]

def markOf (cs : List Char) : Token × List Char :=
  match longMarks.find? fun mark => mark.toList.isPrefixOf cs with
  | some mark => (.mark mark, cs.drop mark.length)
  | none => (.mark (String.ofList (cs.take 1)), cs.drop 1)

/-- Cut the token that stands first; no blank is there. -/
def cut (line : Nat) (cs : List Char) : Cut :=
  match cs with
  | [] => .ok (.finish none, [])
  | c :: rest =>
    if c.isDigit || (c == '.' && rest.head?.any Char.isDigit) then number cs
    else if isQuote c then quotation [] line c rest
    else if isWordLike c then word line cs
    else .ok (markOf cs)

/-! ### Rows of tokens -/

/-- How many brackets may be open. -/
def depthLimit : Nat := 200

def closerOf (opener : Char) : Char :=
  if opener == '(' then ')' else if opener == '[' then ']' else '\x7d'

def bracketsAfter (brackets : List (Char × Nat)) (line : Nat) (mark : String) :
    Except Cause (List (Char × Nat)) :=
  match mark.toList with
  | [c] =>
    if c == '(' || c == '[' || c == '\x7b' then
      if brackets.length ≥ depthLimit then .error .tooDeep else .ok ((c, line) :: brackets)
    else if c == ')' || c == ']' || c == '\x7d' then
      match brackets with
      | [] => .error (.unmatched c)
      | (opener, at') :: outer =>
        if closerOf opener == c then .ok outer
        else .error (.mismatched c opener (if at' = line then none else some at'))
    else .ok brackets
  | _ => .ok brackets

/-- Whether the character behind a token is looked at with it. -/
def looksBehind : Token → Bool
  | .literal _ => false
  | _ => true

/-- The tokens of characters from a line on, with the brackets that are open. Lines without tokens
have no end; `isFresh` says that no token was on the line yet. A step takes at least one character,
so that `fuel` need not be more than their number. -/
def rowFrom (fuel line : Nat) (isFresh : Bool) (brackets : List (Char × Nat)) (cs : List Char) :
    List Placed :=
  let stop (cause : Cause) : List Placed :=
    [⟨.fault ⟨cause, line⟩, line, brackets.length, true⟩]
  match fuel, cs with
  | 0, _ | _, [] => [⟨.finish brackets.head?, line, brackets.length, true⟩]
  | fuel + 1, c :: rest =>
    if c == ' ' || c == '\t' || c == '\x0c' then rowFrom fuel line isFresh brackets rest
    else if c == '#' then rowFrom fuel line isFresh brackets (rest.dropWhile (· != '\n'))
    else if c == '\n' then
      let behind := rowFrom fuel (line + 1) true brackets rest
      if brackets.isEmpty && !isFresh then ⟨.lineEnd, line, 0, rest.isEmpty⟩ :: behind else behind
    else if c == '\\' then
      match rest with
      | ['\n'] =>
        if brackets.isEmpty then stop .endOfText
        else [⟨.finish brackets.head?, line, brackets.length, true⟩]
      | '\n' :: more => rowFrom fuel (line + 1) isFresh brackets more
      | _ => stop .continuation
    else
      match cut line cs with
      | .error cause => stop cause
      | .ok (token, rest) =>
        let brackets? :=
          match token with
          | .mark mark => bracketsAfter brackets line mark
          | _ => .ok brackets
        match brackets? with
        | .error cause => stop cause
        | .ok brackets =>
          let taken := cs.take (cs.length - rest.length)
          ⟨token, line, brackets.length, rest.isEmpty && looksBehind token⟩ ::
            rowFrom fuel (line + lineEnds taken) false brackets rest

def row (text : List Char) : List Placed :=
  if text.isEmpty then [⟨.finish none, 0, 0, true⟩] else rowFrom (text.length + 1) 1 true [] text

end Tokens

end Rollout.Log.Expression
