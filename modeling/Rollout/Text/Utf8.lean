/-!
UTF-8 text in rows of bytes.

A sequence is read from its first byte on: it is a character, or it fails after the longest prefix
that some character starts with. The strict decoder stops at the first failure and tells where it
is; the lossy decoder writes one replacement character for each failed prefix and reads on.
-/

set_option autoImplicit false
set_option relaxedAutoImplicit false

namespace Rollout.Text.Utf8

/-- Why bytes are not a character. -/
inductive Reason
  | start
  | continuation
  | truncated
  deriving DecidableEq, Repr

def Reason.message : Reason → String
  | .start => "invalid start byte"
  | .continuation => "invalid continuation byte"
  | .truncated => "unexpected end of data"

/-- A failure to decode: where it starts, its first byte, how many bytes it covers, and why. -/
structure Fault where
  position : Nat
  byte : UInt8
  length : Nat
  reason : Reason
  deriving DecidableEq, Repr

def Fault.message (f : Fault) : String :=
  let place :=
    if f.length = 1 then
      let digits := Nat.toDigits 16 f.byte.toNat
      let padded := if digits.length < 2 then '0' :: digits else digits
      s!"byte 0x{String.ofList padded} in position {f.position}"
    else s!"bytes in position {f.position}-{f.position + f.length - 1}"
  s!"'utf-8' codec can't decode {place}: {f.reason.message}"

/-- The second byte's range after the given first byte: a continuation byte that makes neither an
overlong form, nor a surrogate, nor a value beyond the last code point. -/
def isSecond (first second : UInt8) : Bool :=
  let low : UInt8 := if first == 0xE0 then 0xA0 else if first == 0xF0 then 0x90 else 0x80
  let high : UInt8 := if first == 0xED then 0x9F else if first == 0xF4 then 0x8F else 0xBF
  low ≤ second && second ≤ high

def isTail (b : UInt8) : Bool := 0x80 ≤ b && b ≤ 0xBF

/-- How many bytes the sequence that starts with this byte takes, or none where no sequence
starts with it. -/
def width? (b : UInt8) : Option Nat :=
  if b < 0x80 then some 1
  else if b < 0xC2 then none
  else if b < 0xE0 then some 2
  else if b < 0xF0 then some 3
  else if b < 0xF5 then some 4
  else none

def low6 (b : UInt8) : Nat := b.toNat % 64

/-- What a row of bytes starts with: a character and the bytes after it, or the length of the
failed prefix, why it failed, and the bytes after it. -/
inductive Head
  | char (c : Char) (rest : List UInt8)
  | bad (length : Nat) (reason : Reason) (rest : List UInt8)

def head (b : UInt8) (rest : List UInt8) : Head :=
  match width? b with
  | some 1 => .char (Char.ofNat b.toNat) rest
  | some 2 =>
    match rest with
    | [] => .bad 1 .truncated rest
    | c :: rest' =>
      if isTail c then .char (Char.ofNat (b.toNat % 32 * 64 + low6 c)) rest'
      else .bad 1 .continuation rest
  | some 3 =>
    match rest with
    | [] => .bad 1 .truncated rest
    | c :: rest' =>
      if isSecond b c then
        match rest' with
        | [] => .bad 2 .truncated rest'
        | d :: rest'' =>
          if isTail d then .char (Char.ofNat ((b.toNat % 16 * 64 + low6 c) * 64 + low6 d)) rest''
          else .bad 2 .continuation rest'
      else .bad 1 .continuation rest
  | some _ =>
    match rest with
    | [] => .bad 1 .truncated rest
    | c :: rest' =>
      if isSecond b c then
        match rest' with
        | [] => .bad 2 .truncated rest'
        | d :: rest'' =>
          if isTail d then
            match rest'' with
            | [] => .bad 3 .truncated rest''
            | e :: rest''' =>
              if isTail e then
                let code := ((b.toNat % 8 * 64 + low6 c) * 64 + low6 d) * 64 + low6 e
                .char (Char.ofNat code) rest'''
              else .bad 3 .continuation rest''
          else .bad 2 .continuation rest'
      else .bad 1 .continuation rest
  | none => .bad 1 .start rest

def Head.rest : Head → List UInt8
  | .char _ rest => rest
  | .bad _ _ rest => rest

theorem rest_head_length_le (b : UInt8) (bs : List UInt8) :
    (head b bs).rest.length ≤ bs.length := by
  unfold head
  repeat' split
  all_goals simp only [Head.rest, List.length_cons]
  all_goals omega

/-- Decode strictly, the first byte standing at the given position. -/
def decodeFrom (position : Nat) : List UInt8 → Except Fault (List Char)
  | [] => .ok []
  | b :: bs =>
    match head b bs with
    | .char c _ => (decodeFrom (position + c.utf8Size) (head b bs).rest).map (c :: ·)
    | .bad length reason _ => .error ⟨position, b, length, reason⟩
  termination_by bs => bs.length
  decreasing_by
    have := rest_head_length_le b bs
    simp only [List.length_cons]
    omega

def decode (bs : List UInt8) : Except Fault (List Char) := decodeFrom 0 bs

/-- What can be decoded strictly, and where bytes are left, the failure and the bytes from it on. -/
def decodePart (position : Nat) : List UInt8 → List Char × Option (Fault × List UInt8)
  | [] => ([], none)
  | b :: bs =>
    match head b bs with
    | .char c _ =>
      let (text, left) := decodePart (position + c.utf8Size) (head b bs).rest
      (c :: text, left)
    | .bad length reason _ => ([], some (⟨position, b, length, reason⟩, b :: bs))
  termination_by bs => bs.length
  decreasing_by
    have := rest_head_length_le b bs
    simp only [List.length_cons]
    omega

/-- Decode blocks as they come. A sequence that a block cuts off is put in front of the next block,
and positions count from the start of what is decoded together. The text is that of the blocks
before the failing one. -/
def decodeBlocks (kept : List UInt8) : List (List UInt8) → List Char × Option Fault
  | [] =>
    match decodePart 0 kept with
    | (text, none) => (text, none)
    | (_, some (fault, _)) => ([], some fault)
  | block :: rest =>
    match decodePart 0 (kept ++ block) with
    | (text, none) =>
      let (more, fault) := decodeBlocks [] rest
      (text ++ more, fault)
    | (text, some (fault, left)) =>
      if fault.reason = .truncated ∧ left.length = fault.length then
        let (more, fault) := decodeBlocks left rest
        (text ++ more, fault)
      else ([], some fault)

def blocks {α : Type} (size : Nat) (row : List α) : List (List α) :=
  if size = 0 ∨ row = [] then [] else row.take size :: blocks size (row.drop size)
  termination_by row.length
  decreasing_by
    have : row.length ≠ 0 := by simp_all
    simp only [List.length_drop]
    omega

def blockSize : Nat := 8192

def decodeFile (bytes : List UInt8) : List Char × Option Fault :=
  decodeBlocks [] (blocks blockSize bytes)

/-- The character of a head; a failed prefix stands for the replacement character. -/
def Head.shown : Head → Char
  | .char c _ => c
  | .bad _ _ _ => '\uFFFD'

/-- Decode with one replacement character for each failed prefix. -/
def decodeLossy : List UInt8 → List Char
  | [] => []
  | b :: bs => (head b bs).shown :: decodeLossy (head b bs).rest
  termination_by bs => bs.length
  decreasing_by
    have := rest_head_length_le b bs
    simp only [List.length_cons]
    omega

def encode (cs : List Char) : List UInt8 := (String.ofList cs).toUTF8.data.toList

end Rollout.Text.Utf8
