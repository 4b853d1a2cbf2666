import Rollout.Disk

/-!
Conditions of `test`.

Up to four words are read by their number, as the rules for few words say; more words are an
expression with `-o` below `-a` below `!`.
-/

set_option autoImplicit false
set_option relaxedAutoImplicit false

namespace Rollout.Machine.Condition

/-- Why a condition has no answer. -/
inductive Fault
  | badNumber (text : String)
  | badOperator (text : String)
  | openBracket
  | noOperand (operator : String)
  | nothing
  deriving DecidableEq, Repr

def Fault.message : Fault → String
  | .badNumber text => s!"Illegal number: {text}"
  | .badOperator text => s!"{text}: unexpected operator"
  | .openBracket => "closing paren expected"
  | .noOperand operator => s!"{operator}: argument expected"
  | .nothing => "argument expected"

/-- The number that a word spells; blanks may stand around it. -/
def number (text : String) : Except Fault Int :=
  let cs := (text.toList.dropWhile (·.isWhitespace)).reverse.dropWhile (·.isWhitespace) |>.reverse
  let digits := if cs.head? = some '-' || cs.head? = some '+' then cs.drop 1 else cs
  if digits.isEmpty || !digits.all Char.isDigit then .error (.badNumber text)
  else
    let n : Nat := digits.foldl (fun n c => n * 10 + (c.toNat - '0'.toNat)) 0
    .ok (if cs.head? = some '-' then -(n : Int) else n)

def entry? (disk : Disk) (base : Place) (follow : Bool) (path : String) : Option Entry :=
  match disk.locate follow base path with
  | .ok (_, found) => found
  | .error _ => none

/-- Whether a condition on one word holds, where there is such a condition. -/
def unary? (disk : Disk) (base : Place) (operator word : String) : Option Bool :=
  let found := entry? disk base true word
  match operator with
  | "-n" => some !word.isEmpty
  | "-z" => some word.isEmpty
  | "-e" | "-r" | "-w" => some found.isSome
  | "-f" => some (match found with | some (.file _ _) | some (.program _) => true | _ => false)
  | "-d" => some (match found with | some (.directory _) => true | _ => false)
  | "-s" => some (match found with | some (.file bytes _) => !bytes.isEmpty | some _ => true
                                   | none => false)
  | "-x" => some (match found with
      | some (.file _ mode) => mode % 2 = 1 || mode / 8 % 2 = 1 || mode / 64 % 2 = 1
      | some (.directory _) | some (.program _) => true
      | _ => false)
  | "-c" => some (match found with | some (.device _) => true | _ => false)
  | "-L" | "-h" =>
    some (match entry? disk base false word with | some (.link _) => true | _ => false)
  | "-t" | "-p" | "-b" | "-u" | "-g" | "-k" | "-S" => some false
  | _ => none

/-- Whether a condition on two words holds, where there is such a condition. With `twice`, equality
may be written with two signs. -/
def binary? (twice : Bool) (operator first second : String) : Option (Except Fault Bool) :=
  let compare (f : Int → Int → Bool) : Option (Except Fault Bool) := some do
    return f (← number first) (← number second)
  match operator with
  | "=" => some (.ok (first == second))
  | "==" => if twice then some (.ok (first == second)) else none
  | "!=" => some (.ok (first != second))
  | "<" => some (.ok (decide (first < second)))
  | ">" => some (.ok (decide (second < first)))
  | "-eq" => compare (· == ·)
  | "-ne" => compare (· != ·)
  | "-lt" => compare (· < ·)
  | "-le" => compare (· ≤ ·)
  | "-gt" => compare (fun a b => decide (b < a))
  | "-ge" => compare (fun a b => decide (b ≤ a))
  | _ => none

mutual

def anyOf (disk : Disk) (base : Place) (twice : Bool) (room : Nat) (words : List String) :
    Except Fault (Bool × List String) :=
  match room with
  | 0 => .error .nothing
  | room + 1 => do
    let (first, rest) ← allOf disk base twice room words
    match rest with
    | "-o" :: rest =>
      let (second, rest) ← anyOf disk base twice room rest
      return (first || second, rest)
    | rest => return (first, rest)

def allOf (disk : Disk) (base : Place) (twice : Bool) (room : Nat) (words : List String) :
    Except Fault (Bool × List String) :=
  match room with
  | 0 => .error .nothing
  | room + 1 => do
    let (first, rest) ← single disk base twice room words
    match rest with
    | "-a" :: rest =>
      let (second, rest) ← allOf disk base twice room rest
      return (first && second, rest)
    | rest => return (first, rest)

def single (disk : Disk) (base : Place) (twice : Bool) (room : Nat) (words : List String) :
    Except Fault (Bool × List String) :=
  match room with
  | 0 => .error .nothing
  | room + 1 =>
    match words with
    | [] => .error .nothing
    | first :: operator :: second :: rest =>
      match binary? twice operator first second with
      | some answer => do return (← answer, rest)
      | none => simple disk base twice room words
    | [first, operator] =>
      if first != "!" && (binary? twice operator "" "").isSome then .error (.noOperand operator)
      else simple disk base twice room words
    | words => simple disk base twice room words

/-- Read a condition that is no comparison. -/
def simple (disk : Disk) (base : Place) (twice : Bool) (room : Nat) (words : List String) :
    Except Fault (Bool × List String) :=
  match room with
  | 0 => .error .nothing
  | room + 1 =>
    match words with
    | [] => .error .nothing
    | [word] => .ok (!word.isEmpty, [])
    | "!" :: rest => do
      let (answer, rest) ← single disk base twice room rest
      return (!answer, rest)
    | "(" :: rest => do
      let (answer, rest) ← anyOf disk base twice room rest
      match rest with
      | ")" :: rest => return (answer, rest)
      | _ => throw .openBracket
    | operator :: word :: rest =>
      match unary? disk base operator word with
      | some answer => .ok (answer, rest)
      | none => .ok (!operator.isEmpty, word :: rest)

end

/-- Whether the condition of words holds; no words are no condition that holds. Where words are left
over, the one before them is to blame. -/
def holds (twice : Bool) (disk : Disk) (base : Place) (words : List String) : Except Fault Bool :=
  match words with
  | [] => .ok false
  | words => do
    let (answer, rest) ← anyOf disk base twice (4 * words.length + 4) words
    if rest.isEmpty then return answer
    else throw (.badOperator ((words[words.length - rest.length - 1]?).getD ""))

end Rollout.Machine.Condition
