import Rollout.Shell.Script

/-!
Tokens of the shell: words, operators and line ends.

Quotes, expansions and scripts inside words are read with the word that they stand in, so the
reading of words and of scripts call each other; each inner text is shorter than the outer.
-/

set_option autoImplicit false
set_option relaxedAutoImplicit false

namespace Rollout.Shell

inductive Token
  | word (word : Word)
  | mark (text : String)
  | channel (number : Nat)
  | lineEnd

abbrev Tokens := List (Nat × Token)

inductive ReadFault
  | openQuote
  | openBackquote
  | openBrace
  | openSum
  | badChange
  | badFunction (line : Nat)
  | badLoop (line : Nat)
  | unexpected (line : Nat) (token : String) (expected : Option String)
  deriving DecidableEq, Repr

def ReadFault.message : ReadFault → String
  | .openQuote => "Syntax error: Unterminated quoted string"
  | .openBackquote => "Syntax error: EOF in backquote substitution"
  | .openSum => "Syntax error: Missing \x27))\x27"
  | .badFunction _ => "Syntax error: Bad function name"
  | .openBrace => "Syntax error: Missing \x27\x7d\x27"
  | .badChange => "Bad substitution"
  | .badLoop _ => "Syntax error: Bad for loop variable"
  | .unexpected _ token none => s!"Syntax error: {token} unexpected"
  | .unexpected _ token (some expected) =>
    s!"Syntax error: {token} unexpected (expecting \"" ++ expected ++ "\")"

def ReadFault.line : ReadFault → Nat
  | .unexpected line _ _ | .badLoop line | .badFunction line => line
  | _ => 1

inductive Mode
  | bare
  | whole
  | double
  | document
  | braced
  deriving DecidableEq, Repr

def Mode.hasQuotes : Mode → Bool
  | .bare | .whole => true
  | .double | .document | .braced => false

def isEnd (c : Char) : Bool := " \t\n;&|<>()".toList.contains c

def isOrdinary (mode : Mode) (c : Char) : Bool :=
  c != '\\' && c != '\x60' && c != '$' && !(mode.hasQuotes && (c == '\x27' || c == '"')) &&
    !((mode = .double || mode = .braced) && c == '"') && !(mode = .bare && isEnd c)

/-- Whether a backslash before a character means that character alone. -/
def isEscaped (mode : Mode) (c : Char) : Bool :=
  mode.hasQuotes || c == '$' || c == '\x60' || c == '\\' ||
    ((mode = .double || mode = .braced) && c == '"')

def isNameStart (c : Char) : Bool := c.isAlpha || c == '_'

def isNamePart (c : Char) : Bool := c.isAlphanum || c == '_'

def isName (cs : List Char) : Bool := (cs.head?.map isNameStart).getD false && cs.all isNamePart

/-- The text up to the closing mark of a pair and the text after it; quotes hide marks. -/
def enclosed (opening closing : Char) (depth : Nat) (quote : Option Char) :
    List Char → Option (List Char × List Char)
  | [] => none
  | '\\' :: c :: rest =>
    if quote = some '\x27' then (enclosed opening closing depth quote (c :: rest)).map
      fun (text, rest) => ('\\' :: text, rest)
    else (enclosed opening closing depth quote rest).map
      fun (text, rest) => ('\\' :: c :: text, rest)
  | c :: rest =>
    let more (depth : Nat) (quote : Option Char) : Option (List Char × List Char) :=
      (enclosed opening closing depth quote rest).map fun (text, rest) => (c :: text, rest)
    match quote with
    | some mark => more depth (if c == mark then none else quote)
    | none =>
      if c == '\x27' || c == '"' then more depth (some c)
      else if c == opening then more (depth + 1) none
      else if c == closing then
        match depth with
        | 0 => some ([], rest)
        | depth + 1 => more depth none
      else more depth none

/-- The text between backquotes, without the backslashes that they need. -/
def backquoted (mode : Mode) : List Char → Option (List Char × List Char)
  | [] => none
  | '\\' :: c :: rest =>
    (backquoted mode rest).map fun (text, rest) =>
      let isDropped := c == '$' || c == '\x60' || c == '\\' || (mode = .double && c == '"')
      ((if isDropped then [c] else ['\\', c]) ++ text, rest)
  | c :: rest =>
    if c == '\x60' then some ([], rest)
    else (backquoted mode rest).map fun (text, rest) => (c :: text, rest)

/-- The ways in which a text can be cut at a closing bracket outside quotes. -/
def cuts (before : List Char) (quote : Option Char) : List Char → List (List Char × List Char)
  | [] => []
  | '\\' :: c :: rest =>
    if quote = some '\x27' then cuts ('\\' :: before) quote (c :: rest)
    else cuts (c :: '\\' :: before) quote rest
  | c :: rest =>
    let more (quote : Option Char) : List (List Char × List Char) := cuts (c :: before) quote rest
    match quote with
    | some mark => more (if c == mark then none else quote)
    | none =>
      if c == ')' then (before.reverse, rest) :: more none
      else if c == '\x27' || c == '"' then more (some c)
      else more none

def parameterName? (cs : List Char) : Option (List Char × List Char) :=
  match cs with
  | [] => none
  | c :: rest =>
    if isNameStart c then
      let name := cs.takeWhile isNamePart
      some (name, cs.drop name.length)
    else if c.isDigit || "@*#?-$!".toList.contains c then some ([c], rest)
    else none

def lineEnds (cs : List Char) : Nat := cs.count '\n'

def operators : List String :=
  ["<<-", "&&", "||", ";;", ">>", "<<", "<&", ">&", ">|", "<>", ";", "&", "|", "<", ">", "(", ")"]

def operator? (cs : List Char) : Option String := operators.find? (·.toList.isPrefixOf cs)

def documentLines (stripTabs : Bool) (mark : List Char) : Nat → List Char →
    List Char × List Char
  | 0, cs => ([], cs)
  | room + 1, cs =>
    if cs.isEmpty then ([], [])
    else
      let line := cs.takeWhile (· != '\n')
      let rest := cs.drop (line.length + 1)
      let ended := line.length < cs.length
      let line := if stripTabs then line.dropWhile (· == '\t') else line
      if line = mark then ([], rest)
      else if ended then
        let (more, rest) := documentLines stripTabs mark room rest
        (line ++ '\n' :: more, rest)
      else (line, [])

def markText : Word → List Char
  | [] => []
  | .plain text :: rest | .quoted text :: rest => text.toList ++ markText rest
  | .double [.plain text] :: rest => text.toList ++ markText rest
  | _ :: rest => markText rest

def isBare : Word → Bool
  | [.plain _] => true
  | _ => false

mutual

/-- Read the parts of a word. `parse` makes a script of tokens. -/
def readParts (parse : Tokens → Except ReadFault Script) (room : Nat) (mode : Mode)
    (cs : List Char) : Except ReadFault (Word × List Char) :=
  match room with
  | 0 => .ok ([], cs)
  | room + 1 =>
    match cs with
    | [] => if mode = .double then .error .openQuote else .ok ([], [])
    | c :: rest =>
      if mode = .double && c == '"' then .ok ([], rest)
      else if mode = .braced && c == '"' then readParts parse room mode rest
      else if mode = .bare && isEnd c then .ok ([], cs)
      else if c == '\\' then
        match rest with
        | [] => .ok ([.quoted "\\"], [])
        | '\n' :: rest => readParts parse room mode rest
        | d :: rest => do
          let text := if isEscaped mode d then String.singleton d else String.ofList ['\\', d]
          let (more, rest) ← readParts parse room mode rest
          return (.quoted text :: more, rest)
      else if mode.hasQuotes && c == '\x27' then do
        let text := rest.takeWhile (· != '\x27')
        if text.length = rest.length then throw .openQuote
        let (more, rest) ← readParts parse room mode (rest.drop (text.length + 1))
        return (.quoted (String.ofList text) :: more, rest)
      else if mode.hasQuotes && c == '"' then do
        let (inner, rest) ← readParts parse room .double rest
        let (more, rest) ← readParts parse room mode rest
        return (.double inner :: more, rest)
      else if c == '\x60' then
        match backquoted mode rest with
        | none => .error .openBackquote
        | some (text, rest) => do
          let script ← parse (← readTokens parse room 1 text)
          let (more, rest) ← readParts parse room mode rest
          return (.output script :: more, rest)
      else if c == '$' then do
        let (part, rest) ← readDollar parse room mode rest
        let (more, rest) ← readParts parse room mode rest
        return (part :: more, rest)
      else do
        let text := cs.takeWhile (isOrdinary mode)
        let (more, rest) ← readParts parse room mode (cs.drop text.length)
        return (.plain (String.ofList text) :: more, rest)

/-- Read what stands behind a dollar sign. -/
def readDollar (parse : Tokens → Except ReadFault Script) (room : Nat) (mode : Mode)
    (cs : List Char) : Except ReadFault (Part × List Char) :=
  match room with
  | 0 => .ok (.plain "$", cs)
  | room + 1 =>
    match cs with
    | '(' :: rest =>
      match enclosed '(' ')' 0 none rest with
      | none =>
        if mode = .double then .error .openQuote
        else if rest.head? = some '(' then .error .openSum
        else .error (.unexpected 0 "end of file" (some ")"))
      | some (text, after) =>
        if text.head? = some '(' && text.getLast? = some ')' then do
          let (parts, _) ← readParts parse room .document (text.drop 1).dropLast
          return (.sum parts, after)
        else
          let script (text : List Char) : Except ReadFault Script := do
            parse (← readTokens parse room 1 text)
          match script text with
          | .ok script => .ok (.output script, after)
          | .error fault =>
            let others := (cuts [] none rest).filterMap fun (text, after) =>
              (script text).toOption.map (·, after)
            match others with
            | (script, after) :: _ => .ok (.output script, after)
            | [] => .error fault
    | '\x7b' :: rest =>
      match enclosed '\x7b' '\x7d' 0 none rest with
      | none => .error (if mode = .double then .openQuote else .openBrace)
      | some (text, rest) => do return (← readChange parse room mode text, rest)
    | _ =>
      match parameterName? cs with
      | none => .ok (.plain "$", cs)
      | some (name, rest) => .ok (.parameter (String.ofList name) .none, rest)

def readChange (parse : Tokens → Except ReadFault Script) (room : Nat) (mode : Mode)
    (cs : List Char) : Except ReadFault Part :=
  match room with
  | 0 => .error .badChange
  | room + 1 =>
    let counted : Option Part :=
      match cs with
      | '#' :: rest =>
        match parameterName? rest with
        | some (name, []) => some (.parameter (String.ofList name) .length)
        | _ => none
      | _ => none
    match counted, parameterName? cs with
    | some part, _ => .ok part
    | none, none => .error .badChange
    | none, some (first, rest) =>
      let digits := if first.all Char.isDigit then rest.takeWhile Char.isDigit else []
      let name := String.ofList (first ++ digits)
      let rest := rest.drop digits.length
      let inner :=
        match mode with
        | .bare | .whole => Mode.whole
        | .double | .braced => .braced
        | .document => .document
      let with' (make : Word → Change) (text : List Char) : Except ReadFault Part := do
        let (word, _) ← readParts parse room inner text
        return .parameter name (make word)
      let orEmpty := rest.head? = some ':'
      match rest with
      | [] => .ok (.parameter name .none)
      | '%' :: '%' :: text => with' (.strip true true) text
      | '%' :: text => with' (.strip true false) text
      | '#' :: '#' :: text => with' (.strip false true) text
      | '#' :: text => with' (.strip false false) text
      | _ =>
        match if orEmpty then rest.drop 1 else rest with
        | '-' :: text => with' (.default orEmpty) text
        | '=' :: text => with' (.assign orEmpty) text
        | '+' :: text => with' (.replace orEmpty) text
        | '?' :: text => with' (.demand orEmpty) text
        | [] => .error .openBrace
        | _ => .error .badChange

def readTokens (parse : Tokens → Except ReadFault Script) (room line : Nat) (cs : List Char) :
    Except ReadFault Tokens :=
  match room with
  | 0 => .ok []
  | room + 1 =>
    match cs with
    | [] => .ok []
    | '\n' :: rest => return (line, .lineEnd) :: (← readTokens parse room (line + 1) rest)
    | '\\' :: '\n' :: rest => readTokens parse room (line + 1) rest
    | c :: rest =>
      if c == ' ' || c == '\t' then readTokens parse room line rest
      else if c == '#' then readTokens parse room line (rest.dropWhile (· != '\n'))
      else match operator? cs with
        | some text => do
          let rest := cs.drop text.length
          if text == "<<" || text == "<<-" then
            let rest := rest.dropWhile fun c => c == ' ' || c == '\t'
            let (mark, rest) ← readParts parse room .bare rest
            if mark.isEmpty then
              return (line, .mark "<<") :: (← readTokens parse room line rest)
            let before := rest.takeWhile (· != '\n')
            let after := rest.drop (before.length + 1)
            let (body, after) :=
              documentLines (text == "<<-") (markText mark) (after.length + 1) after
            let word ← if isBare mark then
                (readParts parse room .document body).map (·.1)
              else pure [.quoted (String.ofList body)]
            return (line, .mark "<<") :: (line, .word [.double word]) ::
              (← readTokens parse room line (before ++ '\n' :: after))
          else return (line, .mark text) :: (← readTokens parse room line rest)
        | none => do
          let digits := cs.takeWhile Char.isDigit
          let behind := (cs.drop digits.length).head?
          if !digits.isEmpty && (behind = some '<' || behind = some '>') then
            let number := digits.foldl (fun n d => n * 10 + (d.toNat - '0'.toNat)) 0
            return (line, .channel number) ::
              (← readTokens parse room line (cs.drop digits.length))
          else
            let (word, rest) ← readParts parse room .bare cs
            let line' := line + lineEnds (cs.take (cs.length - rest.length))
            return (line, .word word) :: (← readTokens parse room line' rest)

end

end Rollout.Shell
