import Rollout.Log.Expression
import Rollout.Log.Expression.Literal

/-!
From tokens to expressions.

A text is read plainly at first. Where that comes to a token that does not fit, the text is read
once more to find out why, and usual slips are told by what they are. A fault of the tokens behind
the place counts more than what is told of the place itself.
-/

set_option autoImplicit false
set_option relaxedAutoImplicit false

namespace Rollout.Log.Expression

inductive Halt
  | unfit (furthest : List Placed)
  | told (fault : Fault) (furthest : List Placed)
  | lost (fault : Fault)

structure Progress where
  rest : List Placed
  furthest : List Placed

abbrev Reading := StateT Progress (Except Halt)

namespace Reader

variable {α : Type}

def further (a b : List Placed) : List Placed := if a.length < b.length then a else b

def here : Reading (List Placed) := return (← get).rest

def peek : Reading Token := do
  modify fun progress => { progress with furthest := further progress.rest progress.furthest }
  match ← here with
  | [] => return .finish none
  | placed :: _ =>
    match placed.token with
    | .fault fault => throw (.lost fault)
    | .finish (some (bracket, line)) => throw (.lost ⟨.unclosed bracket, line⟩)
    | token => return token

def goTo (tokens : List Placed) : Reading Unit := modify ({ · with rest := tokens })

def skip : Reading Unit := do goTo ((← here).drop 1)

def unfit : Reading α := do throw (.unfit (← get).furthest)

def lineOf (tokens : List Placed) : Nat := (tokens.head?.map (·.line)).getD 1

def tell (cause : Cause) (place : List Placed) : Reading α := do
  throw (.told ⟨cause, lineOf place⟩ (← get).furthest)

/-- What a reading answers, or none where it comes to a token that does not fit; then nothing is
gone past. -/
def attempt (reading : Reading α) : Reading (Option α) := do
  let progress ← get
  match reading.run progress with
  | .ok (a, after) =>
    modify fun _ => after
    return some a
  | .error (.unfit furthest) =>
    modify fun _ => { progress with furthest := further furthest progress.furthest }
    return none
  | .error halt => throw halt

/-- What a reading would leave here: its answer and the tokens behind it. Nothing is gone past. -/
def ahead (reading : Reading α) : Reading (Option (α × List Placed)) := do
  let start ← here
  let answer? ← attempt do return (← reading, ← here)
  goTo start
  return answer?

def isMark (s : String) : Reading Bool := do
  match ← peek with
  | .mark t => return s == t
  | _ => return false

def isWord (s : String) : Reading Bool := do
  match ← peek with
  | .word t => return s == t
  | _ => return false

def accept (s : String) : Reading Bool := do
  let found ← isMark s
  if found then skip
  return found

def expectWord (s : String) : Reading Unit := do if ← isWord s then skip else unfit

def expect (s : String) : Reading Unit := do if !(← accept s) then unfit

def plain (tokens : List Placed) : List Token := tokens.map (·.token)

def reserved : List String := [
  "False", "None", "True", "and", "as", "assert", "async", "await", "break", "class", "continue",
  "def", "del", "elif", "else", "except", "finally", "for", "from", "global", "if", "import", "in",
  "is", "lambda", "nonlocal", "not", "or", "pass", "raise", "return", "try", "while", "with",
  "yield"]

def constants : List (String × Value) := [
  ("None", .null), ("True", .bool true), ("False", .bool false)]

/-- The words that are names at most places only, as all their beginnings are. -/
def softWords : List String := ["_", "case", "match"]

/-- The names of old statements that were written without parentheses. -/
def statements : List String := ["print", "exec"]

/-- The relation whose sign stands first, with the number of its tokens. -/
def relation? (tokens : List Placed) : Option (Relation × Nat) :=
  match plain tokens with
  | .mark "==" :: _ => some (.equal, 1)
  | .mark "!=" :: _ => some (.unequal, 1)
  | .mark "<" :: _ => some (.less, 1)
  | .mark "<=" :: _ => some (.atMost, 1)
  | .mark ">" :: _ => some (.greater, 1)
  | .mark ">=" :: _ => some (.atLeast, 1)
  | .word "is" :: .word "not" :: _ => some (.notSame, 2)
  | .word "is" :: _ => some (.same, 1)
  | .word "not" :: .word "in" :: _ => some (.notMember, 2)
  | .word "in" :: _ => some (.isMember, 1)
  | _ => none

def joints : List (List Joint) := [
  [.either], [.differing], [.both], [.left, .right], [.plus, .minus],
  [.times, .over, .floor, .rest, .matrix]]

def mayMissComma (tokens : List Placed) : Bool :=
  match plain tokens with
  | .word name :: .literal _ :: _ => reserved.contains name
  | .word name :: _ => !softWords.any (·.startsWith name)
  | _ => true

/-- The number of brackets that are open behind the tokens between two places. -/
def depthBetween (start stop : List Placed) : Nat :=
  ((start.take (start.length - stop.length)).getLast?.map (·.depth)).getD 0

def mayBeAssigned (tokens : List Placed) (e : Expression) : Bool :=
  match (plain tokens).head?, e with
  | some (.word _), .constant _ => false
  | some (.mark "["), _ => false
  | _, .tuple _ => false
  | _, _ => true

def literals : Nat → Reading (List Literal)
  | 0 => return []
  | fuel + 1 => do
    match ← peek with
    | .literal l => do
      skip
      return l :: (← literals fuel)
    | _ => return []

mutual

/-- Read an expression; `strict` tells of usual slips. -/
def expression : Nat → Bool → Reading Expression
  | 0, _ => unfit
  | fuel + 1, strict => do
    let start ← here
    let e ← disjunction fuel strict
    if strict then checkComma fuel start
    let choice? : Option Expression ← attempt do
      expectWord "if"
      let condition ← disjunction fuel strict
      if strict && !(← isWord "else") && !(← isMark ":") then tell .noElse start
      expectWord "else"
      return Expression.choice condition e (← expression fuel strict)
    match choice? with
    | some whole => return whole
    | none =>
      if strict then checkStatement fuel start
      return e

/-- Tell of an old statement without parentheses. What stands behind a name is looked at in any
case. -/
def checkStatement : Nat → List Placed → Reading Unit
  | 0, _ => return ()
  | fuel + 1, start => do
    let place ← here
    let .word name :: _ := plain start | return ()
    if reserved.contains name then return ()
    goTo (start.drop 1)
    if !(← isMark "(") then
      if (← ahead (expression fuel true)).isSome && statements.contains name then
        tell (.noParentheses name) start
    goTo place

/-- Tell of a missing comma where another expression follows between brackets. -/
def checkComma : Nat → List Placed → Reading Unit
  | 0, _ => return ()
  | fuel + 1, start => do
    let stop ← here
    let isStatement :=
      match plain (start.take (start.length - stop.length)) with
      | [.word name] => statements.contains name
      | _ => false
    if mayMissComma start && !isStatement then
      match ← ahead (expression fuel false) with
      | some (_, behind) => if depthBetween stop behind > 0 then tell .comma start
      | none => return ()

def disjunction : Nat → Bool → Reading Expression
  | 0, _ => unfit
  | fuel + 1, strict => do
    let e ← conjunction fuel strict
    let other? ← attempt do
      expectWord "or"
      disjunction fuel strict
    return match other? with
      | some other => .first e other
      | none => e

def conjunction : Nat → Bool → Reading Expression
  | 0, _ => unfit
  | fuel + 1, strict => do
    let e ← inversion fuel strict
    let other? ← attempt do
      expectWord "and"
      conjunction fuel strict
    return match other? with
      | some other => .second e other
      | none => e

def inversion : Nat → Bool → Reading Expression
  | 0, _ => unfit
  | fuel + 1, strict => do
    if ← isWord "not" then
      skip
      return .negation (← inversion fuel strict)
    let e ← joined fuel strict 0
    match ← comparisons fuel strict with
    | [] => return e
    | rest => return .comparison e rest

def comparisons : Nat → Bool → Reading (List (Relation × Expression))
  | 0, _ => return []
  | fuel + 1, strict => do
    let _ ← peek
    match relation? (← here) with
    | none => return []
    | some (relation, count) =>
      let other? ← attempt do
        goTo ((← here).drop count)
        joined fuel strict 0
      match other? with
      | none => return []
      | some e => return (relation, e) :: (← comparisons fuel strict)

def joined : Nat → Bool → Nat → Reading Expression
  | 0, _, _ => unfit
  | fuel + 1, strict, strength =>
    match joints[strength]? with
    | none => factor fuel strict
    | some _ => do joinedBehind fuel strict strength (← joined fuel strict (strength + 1))

def joinedBehind : Nat → Bool → Nat → Expression → Reading Expression
  | 0, _, _, e => return e
  | fuel + 1, strict, strength, e => do
    let .mark s ← peek | return e
    match ((joints[strength]?).getD []).find? (·.sign == s) with
    | none => return e
    | some joint =>
      let other? ← attempt do
        skip
        joined fuel strict (strength + 1)
      match other? with
      | none => return e
      | some other => joinedBehind fuel strict strength (.joined joint e other)

/-- Read an expression that may have a sign before it and a power behind it. -/
def factor : Nat → Bool → Reading Expression
  | 0, _ => unfit
  | fuel + 1, strict => do
    let signs : List Sign := [.plus, .minus, .flip]
    let token ← peek
    let sign? :=
      match token with
      | .mark s => signs.find? (·.text == s)
      | _ => none
    match sign? with
    | some sign =>
      skip
      return .signed sign (← factor fuel strict)
    | none =>
      let e ← behind fuel strict (← atom fuel strict)
      let power? ← attempt do
        expect "**"
        factor fuel strict
      return match power? with
        | some power => .joined .power e power
        | none => e

/-- Read the parts, items and calls behind an expression. -/
def behind : Nat → Bool → Expression → Reading Expression
  | 0, _, e => return e
  | fuel + 1, strict, e => do
    let next? ← attempt do
      match ← peek with
      | .mark "." =>
        skip
        let .word name ← peek | unfit
        if reserved.contains name then unfit
        skip
        return .part e name
      | .mark "(" =>
        skip
        let (row, named) ← arguments fuel strict [] []
        return .call e row named
      | .mark "[" =>
        skip
        let (items, isRow) ← items fuel strict "]"
        match items, isRow with
        | [], _ => unfit
        | [index], false => return .item e index
        | _, _ => return .item e (.tuple items)
      | _ => unfit
    match next? with
    | some next => behind fuel strict next
    | none => return e

def arguments : Nat → Bool → List Expression → List (Option String × Expression) →
    Reading (List Expression × List (Option String × Expression))
  | 0, _, _, _ => unfit
  | fuel + 1, strict, row, named => do
    let start ← here
    let more (row : List Expression) (named : List (Option String × Expression)) :
        Reading (List Expression × List (Option String × Expression)) := do
      if ← accept "," then arguments fuel strict row named
      else
        expect ")"
        return (row, named)
    if ← accept ")" then return (row, named)
    if ← accept "*" then
      if named.any (·.1.isNone) then
        if strict then tell .starAfterStars start
        unfit
      let e ← expression fuel strict
      return ← more (row ++ [.members e]) named
    if ← accept "**" then
      let e ← expression fuel strict
      return ← more row (named ++ [(none, e)])
    match plain start with
    | .word name :: .mark "=" :: _ =>
      if constants.any (·.1 == name) then
        if strict then tell (.wordAssignment name) start
        unfit
      if reserved.contains name then unfit
      skip
      skip
      let e ← expression fuel strict
      if named.any (·.1 == some name) then tell (.nameTwice name) start
      more row (named ++ [(some name, e)])
    | _ =>
      let e ← named' fuel strict false
      if ← isMark "=" then
        if strict then tell .namedAssignment start
        unfit
      if !named.isEmpty then
        if strict then
          tell (if named.any (·.1.isNone) then .positionAfterStars else .positionAfterName)
            (← here)
        unfit
      more (row ++ [e]) named

/-- Read an expression that may get a name; `checks` says whether an equals sign behind it is told
of. -/
def named' : Nat → Bool → Bool → Reading Expression
  | 0, _, _ => unfit
  | fuel + 1, strict, checks => do
    let start ← here
    let e ← expression fuel strict
    if ← isMark ":=" then
      let (.identifier _) := e | unfit
      skip
      return ← expression fuel strict
    if strict && checks && (← isMark "=") then checkAssignment fuel start
    return e

def checkAssignment : Nat → List Placed → Reading Unit
  | 0, _ => return ()
  | fuel + 1, start => do
    let place ← here
    goTo start
    let target? ← ahead (joined fuel false 0)
    goTo (place.drop 1)
    let value? ← ahead (joined fuel false 0)
    goTo place
    let isEnd (tokens : List Placed) : Bool :=
      match (plain tokens).head? with
      | some (.mark s) => s != "=" && s != ":="
      | _ => true
    match target?, value? with
    | some (target, stop), some (_, rest) =>
      if stop.length == place.length && isEnd rest && mayBeAssigned start target then
        match plain start with
        | .word _ :: .mark "=" :: _ => tell .equals start
        | _ => tell (.assignment target.told) start
    | _, _ => return ()

/-- Read items up to a closing mark; whether there is a comma is told with them. -/
def items : Nat → Bool → String → Reading (List Expression × Bool)
  | 0, _, _ => unfit
  | fuel + 1, strict, closer => do
    if ← accept closer then return ([], false)
    let e ← item fuel strict
    if ← accept "," then
      let (rest, _) ← items fuel strict closer
      return (e :: rest, true)
    expect closer
    return ([e], false)

def item : Nat → Bool → Reading Expression
  | 0, _ => unfit
  | fuel + 1, strict => do
    if ← accept "*" then
      let start ← here
      let e ← joined fuel strict 0
      if strict then checkComma fuel start
      return .members e
    named' fuel strict true

/-- Read an expression that nothing is behind. -/
def atom : Nat → Bool → Reading Expression
  | 0, _ => unfit
  | fuel + 1, strict => do
    let start ← here
    match ← peek with
    | .word name =>
      match constants.find? (·.1 == name) with
      | some (_, v) =>
        skip
        return .constant v
      | none =>
        if reserved.contains name then unfit
        skip
        return .identifier name
    | .number v =>
      skip
      return .constant v
    | .literal _ =>
      match Literal.value (← literals start.length) with
      | .ok v => return .constant v
      | .error cause => tell cause start
    | .mark "..." =>
      skip
      return .ellipsis
    | .mark "(" =>
      skip
      let inner ← here
      if strict && (← isMark "**") then
        skip
        let closed? ← attempt do
          let _ ← expression fuel false
          expect ")"
        if closed?.isSome then tell .loneStars inner
        unfit
      let (items, isRow) ← items fuel strict ")"
      match items, isRow with
      | [.members _], false =>
        if strict then tell .loneStar inner
        unfit
      | [e], false => return e
      | _, _ => return .tuple items
    | .mark "[" =>
      skip
      return .list (← items fuel strict "]").1
    | .mark "\x7b" =>
      skip
      let inner ← here
      let entries ← pairs fuel strict
      let afterPairs ← here
      let isMap? ← attempt do
        if !entries.isEmpty then
          let _ ← accept ","
        expect "\x7d"
      if isMap?.isSome then return .map entries
      checkPair fuel strict (!entries.isEmpty) (if entries.isEmpty then inner else afterPairs)
      goTo inner
      return .set (← items fuel strict "\x7d").1
    | _ => unfit

def pairs : Nat → Bool → Reading (List (Option Expression × Expression))
  | 0, _ => return []
  | fuel + 1, strict => do
    let some entry ← attempt (pair fuel strict) | return []
    let rest? ← attempt do
      expect ","
      let rest ← pairs fuel strict
      if rest.isEmpty then unfit
      return rest
    return entry :: rest?.getD []

def pair : Nat → Bool → Reading (Option Expression × Expression)
  | 0, _ => unfit
  | fuel + 1, strict => do
    if ← accept "**" then return (none, ← joined fuel strict 0)
    let key ← expression fuel strict
    expect ":"
    return (some key, ← expression fuel strict)

/-- Tell of an entry that has no colon or no value; only behind another entry and a comma has it to
have a colon. -/
def checkPair : Nat → Bool → Bool → List Placed → Reading Unit
  | 0, _, _, _ => return ()
  | fuel + 1, strict, isBehind, place => do
    goTo place
    let _ ← attempt do
      if isBehind then expect ","
      let start ← here
      let _ ← expression fuel strict
      if isBehind && !(← isMark ":") then tell .noColon start
      let colon ← here
      expect ":"
      let held ← here
      if ← accept "*" then
        let _ ← joined fuel strict 0
        tell .starHeld held
      if (← isMark "\x7d") || (← isMark ",") then tell .noHeld colon

end

def whole (fuel : Nat) (strict : Bool) : Reading Expression := do
  let e ← expression fuel strict
  let e ← if ← isMark "," then return ← finished (.tuple (e :: (← others fuel fuel)))
          else pure e
  finished e
where
  others (fuel : Nat) : Nat → Reading (List Expression)
    | 0 => return []
    | left + 1 => do
      if !(← accept ",") then return []
      match ← peek with
      | .lineEnd | .finish _ => return []
      | _ =>
        let e ← expression fuel strict
        return e :: (← others fuel left)
  finished (e : Expression) : Reading Expression := do
    let _ ← peek
    let isEnd (placed : Placed) : Bool := match placed.token with | .lineEnd => true | _ => false
    goTo ((← here).dropWhile isEnd)
    match ← peek with
    | .finish _ => return e
    | _ => unfit

def later? (line : Nat) : List Placed → Option Fault
  | [] => none
  | placed :: rest =>
    match placed.token with
    | .fault fault => some fault
    | .finish (some (bracket, opened)) =>
      if line > opened then some ⟨.unclosed bracket, opened⟩ else none
    | _ => later? line rest

def fuelFor (tokens : List Placed) : Nat := 24 * (tokens.length + 1)

/-- The fault that is told where a reading halts; `usual` is told of tokens that do not fit. The
tokens behind are not looked at where the end was seen. -/
def faultOf (usual : Fault) : Halt → Fault
  | .lost fault => fault
  | .told fault furthest =>
    if furthest.head?.any (·.isLast) then fault
    else (later? (lineOf furthest) furthest).getD fault
  | .unfit _ => usual

/-- Read tokens from their start; `furthest` is the furthest place that was looked at before. -/
def readAll (strict : Bool) (tokens furthest : List Placed) : Except Halt Expression :=
  ((whole (fuelFor tokens) strict).run ⟨tokens, furthest⟩).map (·.1)

end Reader

def read (text : List Char) : Except Fault Expression :=
  let tokens := Tokens.row text
  match Reader.readAll false tokens tokens with
  | .ok e => .ok e
  | .error halt =>
    let furthest :=
      match halt with
      | .unfit furthest | .told _ furthest => furthest
      | .lost _ => tokens
    let line := Reader.lineOf furthest
    let usual := (Reader.later? line furthest).getD ⟨.malformed, line⟩
    match halt with
    | .unfit _ =>
      match Reader.readAll true tokens furthest with
      | .ok _ => .error usual
      | .error halt => .error (Reader.faultOf usual halt)
    | halt => .error (Reader.faultOf usual halt)

end Rollout.Log.Expression
