import Rollout.Shell.Format

/-!
What text programs make of bytes.
-/

set_option autoImplicit false
set_option relaxedAutoImplicit false

namespace Rollout.Machine.Filter

/-- How many bytes the first lines have with their ends, and some more. -/
def firstLinesSize (size : Nat) : Nat → List UInt8 → Nat
  | 0, _ => size
  | _, [] => size
  | n + 1, b :: rest =>
    if b == 10 then firstLinesSize (size + 1) n rest else firstLinesSize (size + 1) (n + 1) rest

def firstLines (n : Nat) (bytes : List UInt8) : List UInt8 := bytes.take (firstLinesSize 0 n bytes)

def lineCount (bytes : List UInt8) : Nat :=
  bytes.count 10 + if bytes.getLast?.getD 10 == 10 then 0 else 1

def afterLines : Nat → List UInt8 → List UInt8
  | 0, bytes => bytes
  | _, [] => []
  | n + 1, b :: rest => if b == 10 then afterLines n rest else afterLines (n + 1) rest

def lastLines (n : Nat) (bytes : List UInt8) : List UInt8 :=
  afterLines (lineCount bytes - n) bytes

def isBlank (b : UInt8) : Bool := b == 32 || (9 ≤ b && b ≤ 13)

def wordCount (bytes : List UInt8) : Nat :=
  (bytes.foldl (fun (count, inWord) b =>
    (if !isBlank b && !inWord then count + 1 else count, !isBlank b)) (0, false)).1

def classes : List (String × List (Nat × Nat)) := [
  ("[:upper:]", [(65, 90)]), ("[:lower:]", [(97, 122)]), ("[:digit:]", [(48, 57)]),
  ("[:alpha:]", [(65, 90), (97, 122)]), ("[:alnum:]", [(48, 57), (65, 90), (97, 122)]),
  ("[:space:]", [(9, 13), (32, 32)]), ("[:blank:]", [(9, 9), (32, 32)]),
  ("[:cntrl:]", [(0, 31), (127, 127)]), ("[:punct:]", [(33, 47), (58, 64), (91, 96), (123, 126)])]

def bytesFrom (low high : Nat) : List UInt8 :=
  (List.range (high + 1 - low)).map fun i => (low + i).toUInt8

/-- The bytes of a set, in order; ranges, classes and escapes are written out. -/
def setBytes (room : Nat) (cs : List Char) : List UInt8 :=
  match room with
  | 0 => []
  | room + 1 =>
    match cs with
    | [] => []
    | _ =>
      match classes.find? (·.1.toList.isPrefixOf cs) with
      | some (name, ranges) =>
        ranges.flatMap (fun (low, high) => bytesFrom low high) ++
          setBytes room (cs.drop name.length)
      | none =>
        let one (cs : List Char) : List UInt8 × List Char :=
          match cs with
          | '\\' :: rest =>
            let (bytes, rest, _) := Shell.Format.escape .shell false rest
            (if bytes.length = 2 then bytes.drop 1 else bytes, rest)
          | c :: rest => (Shell.Format.bytesOf (String.singleton c), rest)
          | [] => ([], [])
        let (first, rest) := one cs
        match rest with
        | '-' :: more@(_ :: _) =>
          let (last, rest) := one more
          match first, last with
          | [low], [high] => bytesFrom low.toNat high.toNat ++ setBytes room rest
          | _, _ => first ++ setBytes room ('-' :: more)
        | rest => first ++ setBytes room rest

def setOf (text : String) : List UInt8 := setBytes (text.length + 1) text.toList

/-- Replace bytes of one set by those of another, the last of which goes on. -/
def replaced (first second : List UInt8) (bytes : List UInt8) : List UInt8 :=
  let last := second.getLast?.getD 0
  bytes.map fun b =>
    match first.idxOf? b with
    | some i => (second[i]?).getD last
    | none => b

def squeezed (set bytes : List UInt8) : List UInt8 :=
  (bytes.foldl (fun (kept : List UInt8) b =>
    if kept.head? = some b && set.contains b then kept else b :: kept) []).reverse

def column (width n : Nat) : String :=
  let digits := toString n
  String.ofList (List.replicate (width - digits.length) ' ') ++ digits

def lines (bytes : List UInt8) : List (List UInt8) :=
  let (done, line) := bytes.foldl (fun ((done : List (List UInt8)), (line : List UInt8)) b =>
    if b == 10 then (line.reverse :: done, []) else (done, b :: line)) ([], [])
  (if line.isEmpty then done else line.reverse :: done).reverse

def joined (lines : List (List UInt8)) : List UInt8 := lines.flatMap (· ++ [10])

def bytesLe : List UInt8 → List UInt8 → Bool
  | [], _ => true
  | _ :: _, [] => false
  | a :: as, b :: bs => a < b || (a == b && bytesLe as bs)

example : firstLines 2 [97, 10, 10, 98] = [97, 10, 10] := by decide

example : lines [97, 10, 10, 98] = [[97], [], [98]] := by decide

example : replaced (setOf "a-c") (setOf "x") [97, 100, 99] = [120, 100, 120] := by decide +kernel

end Rollout.Machine.Filter
