import Rollout.Shell.Token

/-!
From tokens to scripts.

A script is a row of chains; a chain joins pipelines by what they answer; a pipeline joins commands.
A command is simple, or it starts with a reserved word or a bracket.
-/

set_option autoImplicit false
set_option relaxedAutoImplicit false

namespace Rollout.Shell.Reader

/-- The words that end a row of commands where a command might start. -/
def closers : List String :=
  ["then", "else", "elif", "fi", "do", "done", "esac", "\x7d"]

/-- The text of the first token, where it may be a reserved word. -/
def keyword? : Tokens → Option String
  | (_, .word word) :: _ => Part.plainText? word
  | _ => none

def mark? : Tokens → Option String
  | (_, .mark text) :: _ => some text
  | _ => none

/-- The directions of redirections, each with the channel that it is about if none is named. -/
def directions : List (String × Direction × Nat) := [
  ("<", .read, 0), (">", .write, 1), (">|", .write, 1), (">>", .append, 1), ("<&", .share, 0),
  (">&", .share, 1), ("<>", .read, 0), ("<<", .document, 0)]

def shown : Token → String
  | .word word =>
    match Part.plainText? word with
    | some text => if text == "!" || closers.contains text then "\"" ++ text ++ "\"" else "word"
    | none => "word"
  | .mark text =>
    if directions.any (·.1 == text) then "redirection" else "\"" ++ text ++ "\""
  | .channel _ => "redirection"
  | .lineEnd => "newline"

def unexpected (tokens : Tokens) (expected : Option String) : ReadFault :=
  match tokens with
  | [] => .unexpected 0 "end of file" expected
  | (line, token) :: _ => .unexpected line (shown token) expected

def skipEnds : Tokens → Tokens
  | (_, .lineEnd) :: rest => skipEnds rest
  | tokens => tokens

def expect (text : String) (tokens : Tokens) :
    Except ReadFault Tokens :=
  if keyword? tokens = some text || mark? tokens = some text then .ok (tokens.drop 1)
  else .error (unexpected tokens (some text))

def isClosed (tokens : Tokens) : Bool :=
  tokens.isEmpty || ((keyword? tokens).map closers.contains).getD false ||
    mark? tokens = some ")" || mark? tokens = some ";;"

/-- Read a redirection, if one stands here. -/
def redirection? (tokens : Tokens) : Option (Except ReadFault (Redirection × Tokens)) :=
  let (named, rest) : Option Nat × Tokens :=
    match tokens with
    | (_, .channel number) :: rest => (some number, rest)
    | _ => (none, tokens)
  match rest with
  | (_, .mark text) :: rest =>
    match directions.find? (·.1 == text), rest with
    | some (_, direction, usual), (_, .word word) :: rest =>
      some (.ok (.mk (named.getD usual) direction word, rest))
    | some _, rest => some (.error (unexpected rest none))
    | none, _ => none
  | _ => none

def redirections (room : Nat) (tokens : Tokens) :
    Except ReadFault (List Redirection × Tokens) :=
  match room with
  | 0 => .ok ([], tokens)
  | room + 1 =>
    match redirection? tokens with
    | none => .ok ([], tokens)
    | some read => do
      let (first, rest) ← read
      let (more, rest) ← redirections room rest
      return (first :: more, rest)

/-- The setting that a word is: a name, an equals sign, and the parts behind it. -/
def setting? : Word → Option (String × Word)
  | .plain text :: rest =>
    let cs := text.toList
    let name := cs.takeWhile (· != '=')
    if name.length < cs.length && isName name then
      let value := cs.drop (name.length + 1)
      some (String.ofList name,
        if value.isEmpty then rest else .plain (String.ofList value) :: rest)
    else none
  | _ => none

structure Simple where
  settings : List (String × Word)
  words : List Word
  redirections : List Redirection

/-- Read a simple command. Settings stand only before its words. -/
def simple (room : Nat) (hasWords : Bool) (tokens : Tokens) : Except ReadFault (Simple × Tokens) :=
  match room with
  | 0 => .ok (⟨[], [], []⟩, tokens)
  | room + 1 =>
    match redirection? tokens, tokens with
    | some read, _ => do
      let (redirection, rest) ← read
      let (more, rest) ← simple room hasWords rest
      return ({ more with redirections := redirection :: more.redirections }, rest)
    | none, (_, .word word) :: rest =>
      match setting? word, hasWords with
      | some setting, false => do
        let (more, rest) ← simple room false rest
        return ({ more with settings := setting :: more.settings }, rest)
      | _, _ => do
        let (more, rest) ← simple room true rest
        return ({ more with words := word :: more.words }, rest)
    | none, _ => .ok (⟨[], [], []⟩, tokens)

def words : Tokens → List Word × Tokens
  | (_, .word word) :: rest =>
    let (more, rest) := words rest
    (word :: more, rest)
  | tokens => ([], tokens)

def patterns (room : Nat) (tokens : Tokens) :
    Except ReadFault (List Word × Tokens) :=
  match room with
  | 0 => .ok ([], tokens)
  | room + 1 =>
    match tokens with
    | (_, .word word) :: rest =>
      if mark? rest = some "|" then do
        let (more, rest) ← patterns room (rest.drop 1)
        return (word :: more, rest)
      else do return ([word], ← expect ")" rest)
    | tokens => .error (unexpected tokens none)

mutual

def sequence (room : Nat) (tokens : Tokens) :
    Except ReadFault (Script × Tokens) :=
  match room with
  | 0 => .ok (.sequence [], tokens)
  | room + 1 => do
    let (scripts, rest) ← chains room tokens
    match scripts with
    | [script] => return (script, rest)
    | scripts => return (.sequence scripts, rest)

def filled (room : Nat) (tokens : Tokens) :
    Except ReadFault (Script × Tokens) :=
  match room with
  | 0 => .ok (.sequence [], tokens)
  | room + 1 =>
    let tokens := skipEnds tokens
    if isClosed tokens && !tokens.isEmpty then .error (unexpected tokens none)
    else sequence room tokens

def chains (room : Nat) (tokens : Tokens) :
    Except ReadFault (List Script × Tokens) :=
  match room with
  | 0 => .ok ([], tokens)
  | room + 1 =>
    let tokens := skipEnds tokens
    if isClosed tokens then .ok ([], tokens)
    else do
      let (script, rest) ← chain room tokens
      match rest with
      | (_, .mark ";") :: rest =>
        let (more, rest) ← chains room rest
        return (script :: more, rest)
      | (_, .mark "&") :: rest =>
        let (more, rest) ← chains room rest
        return (.background script :: more, rest)
      | (_, .lineEnd) :: rest =>
        let (more, rest) ← chains room rest
        return (script :: more, rest)
      | rest => if isClosed rest then return ([script], rest) else throw (unexpected rest none)

def chain (room : Nat) (tokens : Tokens) :
    Except ReadFault (Script × Tokens) :=
  match room with
  | 0 => .ok (.sequence [], tokens)
  | room + 1 => do
    let (script, rest) ← pipeline room tokens
    chainOn room script rest

/-- Read on behind the pipelines of a chain. -/
def chainOn (room : Nat) (script : Script) (tokens : Tokens) :
    Except ReadFault (Script × Tokens) :=
  match room with
  | 0 => .ok (script, tokens)
  | room + 1 =>
    match mark? tokens with
    | some "&&" => do
      let (next, rest) ← pipeline room (skipEnds (tokens.drop 1))
      chainOn room (.both script next) rest
    | some "||" => do
      let (next, rest) ← pipeline room (skipEnds (tokens.drop 1))
      chainOn room (.either script next) rest
    | _ => .ok (script, tokens)

def pipeline (room : Nat) (tokens : Tokens) :
    Except ReadFault (Script × Tokens) :=
  match room with
  | 0 => .ok (.sequence [], tokens)
  | room + 1 => do
    let isNegated := keyword? tokens = some "!"
    let (scripts, rest) ← piped room (if isNegated then tokens.drop 1 else tokens)
    let script :=
      match scripts with
      | [script] => script
      | scripts => .pipeline scripts
    return (if isNegated then .negated script else script, rest)

def piped (room : Nat) (tokens : Tokens) :
    Except ReadFault (List Script × Tokens) :=
  match room with
  | 0 => .ok ([], tokens)
  | room + 1 => do
    let (script, rest) ← command room tokens
    if mark? rest = some "|" then
      let (more, rest) ← piped room (skipEnds (rest.drop 1))
      return (script :: more, rest)
    else return ([script], rest)

def command (room : Nat) (tokens : Tokens) :
    Except ReadFault (Script × Tokens) :=
  match room with
  | 0 => .error (unexpected tokens none)
  | room + 1 =>
    if mark? tokens = some "(" then do
      let (script, rest) ← filled room (tokens.drop 1)
      let rest ← expect ")" rest
      let (redirected, rest) ← redirections rest.length rest
      return (.subshell script redirected, rest)
    else
      match keyword? tokens with
      | some "\x7b" => do
        let (script, rest) ← filled room (tokens.drop 1)
        grouped script (← expect "\x7d" rest)
      | some "if" => do
        let (script, rest) ← branch room (tokens.drop 1)
        grouped script rest
      | some "while" => do
        let (script, rest) ← loop room false (tokens.drop 1)
        grouped script rest
      | some "until" => do
        let (script, rest) ← loop room true (tokens.drop 1)
        grouped script rest
      | some "for" => do
        let (script, rest) ← each room (tokens.drop 1)
        grouped script rest
      | some "case" => do
        let (script, rest) ← choice room (tokens.drop 1)
        grouped script rest
      | some name =>
        if name == "!" || closers.contains name then .error (unexpected tokens none)
        else
          match tokens.drop 1, setting? [.plain name] with
          | (line, .mark "(") :: rest, none => do
            let rest ← expect ")" rest
            if !isName name.toList then throw (.badFunction line)
            let (body, rest) ← command room (skipEnds rest)
            return (.define name body, rest)
          | _, _ => simpleCommand tokens
      | none => simpleCommand tokens

def simpleCommand (tokens : Tokens) :
    Except ReadFault (Script × Tokens) := do
  let (found, rest) ← simple tokens.length false tokens
  if rest.length = tokens.length then throw (unexpected tokens none)
  let line := (tokens.head?.map (·.1)).getD 1
  return (.simple line found.settings found.words found.redirections, rest)

/-- Read the redirections behind a command that is no simple one. -/
def grouped (script : Script) (tokens : Tokens) :
    Except ReadFault (Script × Tokens) := do
  let (redirected, rest) ← redirections tokens.length tokens
  return (if redirected.isEmpty then script else .group script redirected, rest)

def branch (room : Nat) (tokens : Tokens) :
    Except ReadFault (Script × Tokens) :=
  match room with
  | 0 => .error (unexpected tokens none)
  | room + 1 => do
    let (condition, rest) ← filled room tokens
    let (yes, rest) ← filled room (← expect "then" rest)
    match keyword? rest with
    | some "elif" =>
      let (no, rest) ← branch room (rest.drop 1)
      return (.branch condition yes no, rest)
    | some "else" =>
      let (no, rest) ← filled room (rest.drop 1)
      return (.branch condition yes no, ← expect "fi" rest)
    | _ => return (.branch condition yes (.sequence []), ← expect "fi" rest)

def body (room : Nat) (tokens : Tokens) :
    Except ReadFault (Script × Tokens) :=
  match room with
  | 0 => .error (unexpected tokens none)
  | room + 1 => do
    let (script, rest) ← filled room (← expect "do" (skipEnds tokens))
    return (script, ← expect "done" rest)

def loop (room : Nat) (untilTrue : Bool) (tokens : Tokens) :
    Except ReadFault (Script × Tokens) :=
  match room with
  | 0 => .error (unexpected tokens none)
  | room + 1 => do
    let (condition, rest) ← filled room tokens
    let (script, rest) ← body room rest
    return (.loop untilTrue condition script, rest)

def each (room : Nat) (tokens : Tokens) :
    Except ReadFault (Script × Tokens) :=
  match room with
  | 0 => .error (unexpected tokens none)
  | room + 1 =>
    match (keyword? tokens).filter (isName ·.toList) with
    | none => .error (.badLoop ((tokens.head?.map (·.1)).getD 0))
    | some name => do
      let rest := skipEnds (tokens.drop 1)
      if keyword? rest = some "in" then
        let (list, rest) := words (rest.drop 1)
        let rest := if mark? rest = some ";" then rest.drop 1 else rest
        let (script, rest) ← body room rest
        return (.each name (some list) script, rest)
      else
        let rest := if mark? rest = some ";" then rest.drop 1 else rest
        let (script, rest) ← body room rest
        return (.each name none script, rest)

def choice (room : Nat) (tokens : Tokens) :
    Except ReadFault (Script × Tokens) :=
  match room with
  | 0 => .error (unexpected tokens none)
  | room + 1 =>
    match tokens with
    | (_, .word word) :: rest => do
      let rest ← expect "in" (skipEnds rest)
      let (cases, rest) ← cases room rest
      return (.choice word cases, rest)
    | tokens => .error (unexpected tokens none)

def cases (room : Nat) (tokens : Tokens) :
    Except ReadFault (List (List Word × Script) × Tokens) :=
  match room with
  | 0 => .error (unexpected tokens none)
  | room + 1 =>
    let tokens := skipEnds tokens
    if keyword? tokens = some "esac" then .ok ([], tokens.drop 1)
    else if tokens.isEmpty then .error (unexpected tokens (some ")"))
    else do
      let tokens := if mark? tokens = some "(" then tokens.drop 1 else tokens
      let (found, rest) ← patterns tokens.length tokens
      let (script, rest) ← sequence room rest
      if mark? rest = some ";;" then
        let (more, rest) ← cases room (rest.drop 1)
        return ((found, script) :: more, rest)
      else if keyword? rest = some "esac" then return ([(found, script)], rest.drop 1)
      else throw (unexpected rest (some ";;"))

end

def parse (tokens : Tokens) :
    Except ReadFault Script := do
  let (script, rest) ← sequence (8 * tokens.length + 8) tokens
  if rest.isEmpty then return script else throw (unexpected rest none)

def placed (cs : List Char) : ReadFault → ReadFault
  | .unexpected 0 token expected => .unexpected (1 + lineEnds cs) token expected
  | .badLoop 0 => .badLoop (1 + lineEnds cs)
  | fault => fault

def read (text : String) : Except ReadFault Script :=
  let cs := text.toList
  (readTokens parse (2 * cs.length + 8) 1 cs >>= parse).mapError (placed cs)

/-- Read as many lines of a script as can be read before the fault, if there is one. -/
def readFront (lines : List (List Char)) (fault : ReadFault) : Nat → Script × Option ReadFault
  | 0 => (.sequence [], some fault)
  | n + 1 =>
    match read (String.ofList ((lines.take (n + 1)).flatMap (· ++ ['\n']))) with
    | .ok script => (script, some fault)
    | .error _ => readFront lines fault n

def readAll (text : String) : Script × Option ReadFault :=
  match read text with
  | .ok script => (script, none)
  | .error fault =>
    let lines := (text.splitOn "\n").map String.toList
    readFront lines fault (lines.length - 1)

end Rollout.Shell.Reader
