import Rollout.Entries

/-!
Arithmetic of the shell, on whole numbers of 64 bits.

Operators have ten levels; those of one level group from the left. A name stands for the number that
its value spells, and may be set on the way.
-/

set_option autoImplicit false
set_option relaxedAutoImplicit false

namespace Rollout.Shell.Arithmetic

/-- Why an expression has no value. -/
inductive Fault
  | noPrimary
  | noEnd
  | zeroDivision
  | badNumber (text : String)
  deriving DecidableEq, Repr

def Fault.message (expression : String) : Fault → String
  | .noPrimary => s!"arithmetic expression: expecting primary: \"" ++ expression ++ "\""
  | .noEnd => s!"arithmetic expression: expecting EOF: \"" ++ expression ++ "\""
  | .zeroDivision => s!"arithmetic expression: division by zero: \"" ++ expression ++ "\""
  | .badNumber text => s!"Illegal number: {text}"

inductive Token
  | number (i : Int)
  | name (s : String)
  | mark (s : String)
  | other
  deriving DecidableEq, Repr

def marks : List String := [
  "<<=", ">>=", "<<", ">>", "<=", ">=", "==", "!=", "&&", "||", "+=", "-=", "*=", "/=", "%=", "+",
  "-", "*", "/", "%", "<", ">", "!", "~", "&", "|", "^", "(", ")", "?", ":", "="]

def levels : List (String × Nat) := [
  ("||", 1), ("&&", 2), ("|", 3), ("^", 4), ("&", 5), ("==", 6), ("!=", 6), ("<", 7), ("<=", 7),
  (">", 7), (">=", 7), ("<<", 8), (">>", 8), ("+", 9), ("-", 9), ("*", 10), ("/", 10), ("%", 10)]

def wrap (i : Int) : Int := Int.bmod i (Nat.pow 2 64)

def digit? (c : Char) : Option Nat :=
  if c.isDigit then some (c.toNat - '0'.toNat)
  else if 'a' ≤ c ∧ c ≤ 'f' then some (c.toNat - 'a'.toNat + 10)
  else if 'A' ≤ c ∧ c ≤ 'F' then some (c.toNat - 'A'.toNat + 10)
  else none

def digits? (base : Nat) (cs : List Char) : Option Int :=
  cs.foldlM (fun n c => do
    let d ← digit? c
    if d < base then some (n * base + d) else none) 0

/-- The number that a text spells: in base sixteen, eight or ten, as it starts. -/
def number? (cs : List Char) : Option Int :=
  match cs with
  | '0' :: 'x' :: rest | '0' :: 'X' :: rest => if rest.isEmpty then none else digits? 16 rest
  | '0' :: rest => digits? 8 rest
  | [] => none
  | cs => digits? 10 cs

/-- The number that a value spells; blanks around it and a sign may stand there. -/
def valueOf? (text : String) : Option Int :=
  let cs := (text.toList.dropWhile (·.isWhitespace)).reverse.dropWhile (·.isWhitespace) |>.reverse
  match cs with
  | [] => some 0
  | '-' :: rest => (number? rest).map (-·)
  | '+' :: rest => number? rest
  | cs => number? cs

def numberText (cs : List Char) : List Char :=
  let isIn (base : Nat) (c : Char) : Bool := ((digit? c).map fun d => decide (d < base)).getD false
  match cs with
  | '0' :: x :: d :: rest =>
    if (x == 'x' || x == 'X') && isIn 16 d then '0' :: x :: (d :: rest).takeWhile (isIn 16)
    else cs.takeWhile (isIn 8)
  | '0' :: _ => cs.takeWhile (isIn 8)
  | cs => cs.takeWhile Char.isDigit

def tokens (room : Nat) (cs : List Char) : Except Fault (List Token) :=
  match room with
  | 0 => .ok []
  | room + 1 =>
    match cs with
    | [] => .ok []
    | c :: rest =>
      if c.isWhitespace then tokens room rest
      else if c.isDigit then do
        let text := numberText cs
        return .number ((number? text).getD 0) :: (← tokens room (cs.drop text.length))
      else if c.isAlpha || c == '_' then do
        let text := cs.takeWhile fun c => c.isAlphanum || c == '_'
        return .name (String.ofList text) :: (← tokens room (cs.drop text.length))
      else match marks.find? (·.toList.isPrefixOf cs) with
        | some mark => do return .mark mark :: (← tokens room (cs.drop mark.length))
        | none => do return .other :: (← tokens room rest)

def ofBool (b : Bool) : Int := if b then 1 else 0

def bits (i : Int) : Nat := (i % Nat.pow 2 64).toNat

def apply (mark : String) (a b : Int) : Except Fault Int :=
  match mark with
  | "||" => .ok (ofBool (a != 0 || b != 0))
  | "&&" => .ok (ofBool (a != 0 && b != 0))
  | "|" => .ok (wrap ((bits a ||| bits b : Nat) : Int))
  | "^" => .ok (wrap ((bits a ^^^ bits b : Nat) : Int))
  | "&" => .ok (wrap ((bits a &&& bits b : Nat) : Int))
  | "==" => .ok (ofBool (a == b))
  | "!=" => .ok (ofBool (a != b))
  | "<" => .ok (ofBool (a < b))
  | "<=" => .ok (ofBool (a ≤ b))
  | ">" => .ok (ofBool (b < a))
  | ">=" => .ok (ofBool (b ≤ a))
  | "<<" => .ok (wrap (a * Nat.pow 2 (bits b % 64)))
  | ">>" => .ok (Int.fdiv a (Nat.pow 2 (bits b % 64)))
  | "+" => .ok (wrap (a + b))
  | "-" => .ok (wrap (a - b))
  | "*" => .ok (wrap (a * b))
  | "/" => if b = 0 then .error .zeroDivision else .ok (wrap (Int.tdiv a b))
  | "%" => if b = 0 then .error .zeroDivision else .ok (Int.tmod a b)
  | _ => .error .noPrimary

/-- A value, the tokens behind it, and the names with what they were set to. -/
abbrev Read := Int × List Token × Entries String

def look (names : Entries String) (name : String) : Except Fault Int :=
  let text := (names.get? name).getD ""
  match valueOf? text with
  | some i => .ok i
  | none => .error (.badNumber text)

mutual

/-- Read an expression that may set a name or choose between two values. With `dry`, it is read but
has no effect. -/
def expression (room : Nat) (dry : Bool) (names : Entries String) (tokens : List Token) :
    Except Fault Read :=
  match room with
  | 0 => .error .noPrimary
  | room + 1 =>
    let put (name : String) (value : Int) (names : Entries String) : Entries String :=
      if dry then names else names.put name (toString value)
    match tokens with
    | .name name :: .mark "=" :: rest => do
      let (value, rest, names) ← expression room dry names rest
      return (value, rest, put name value names)
    | .name name :: .mark mark :: rest =>
      if mark.endsWith "=" && !(["==", "!=", "<=", ">="].contains mark) then do
        let (value, rest, names) ← expression room dry names rest
        let value ← if dry then pure 0
          else apply (mark.dropEnd 1).toString (← look names name) value
        return (value, rest, put name value names)
      else chosen room dry names tokens
    | tokens => chosen room dry names tokens

def chosen (room : Nat) (dry : Bool) (names : Entries String) (tokens : List Token) :
    Except Fault Read :=
  match room with
  | 0 => .error .noPrimary
  | room + 1 => do
    let (value, rest, names) ← level room 1 dry names tokens
    match rest with
    | .mark "?" :: rest =>
      let (yes, rest, names) ← expression room (dry || value = 0) names rest
      match rest with
      | .mark ":" :: rest =>
        let (no, rest, names) ← chosen room (dry || value != 0) names rest
        return (if value = 0 then no else yes, rest, names)
      | _ => throw .noPrimary
    | rest => return (value, rest, names)

def level (room least : Nat) (dry : Bool) (names : Entries String) (tokens : List Token) :
    Except Fault Read :=
  match room with
  | 0 => .error .noPrimary
  | room + 1 => do
    let (value, rest, names) ← primary room dry names tokens
    levelOn room least dry value names rest

def levelOn (room least : Nat) (dry : Bool) (value : Int) (names : Entries String)
    (tokens : List Token) : Except Fault Read :=
  match room with
  | 0 => .ok (value, tokens, names)
  | room + 1 =>
    match tokens with
    | .mark mark :: rest =>
      match levels.find? (·.1 == mark) with
      | none => .ok (value, tokens, names)
      | some (_, found) =>
        if found < least then .ok (value, tokens, names)
        else do
          let isKnown := (mark == "&&" && value = 0) || (mark == "||" && value != 0)
          let (next, rest, names) ← level room (found + 1) (dry || isKnown) names rest
          let value ← if dry then pure 0 else apply mark value next
          levelOn room least dry value names rest
    | tokens => .ok (value, tokens, names)

/-- Read a value with the signs before it. -/
def primary (room : Nat) (dry : Bool) (names : Entries String) (tokens : List Token) :
    Except Fault Read :=
  match room with
  | 0 => .error .noPrimary
  | room + 1 =>
    let signed (rest : List Token) (f : Int → Int) : Except Fault Read := do
      let (value, rest, names) ← primary room dry names rest
      return (f value, rest, names)
    match tokens with
    | .number i :: rest => .ok (wrap i, rest, names)
    | .name name :: rest => do return (← if dry then pure 0 else look names name, rest, names)
    | .mark "-" :: rest => signed rest fun i => wrap (-i)
    | .mark "+" :: rest => signed rest id
    | .mark "!" :: rest => signed rest fun i => ofBool (i == 0)
    | .mark "~" :: rest => signed rest fun i => -i - 1
    | .mark "(" :: rest => do
      let (value, rest, names) ← expression room dry names rest
      match rest with
      | .mark ")" :: rest => return (value, rest, names)
      | _ => throw .noPrimary
    | _ => .error .noPrimary

end

def value (names : Entries String) (text : String) : Except Fault (Int × Entries String) := do
  let found ← tokens (text.length + 1) text.toList
  if found.isEmpty then return (0, names)
  let (value, rest, names) ← expression (16 * found.length + 16) false names found
  if rest.isEmpty then return (value, names) else throw .noEnd

example : (value [("i", "4")] "(i+1)*2 - 7/2").toOption.map (·.1) = some 7 := by decide +kernel

end Rollout.Shell.Arithmetic
