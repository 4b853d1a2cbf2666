/-!
Bytes written in sixty-four characters.

Four characters stand for three bytes; one or two equals signs fill up the last four. Every other
character is passed over, and what follows the filling is not read.
-/

set_option autoImplicit false
set_option relaxedAutoImplicit false

namespace Rollout.Text.Base64

def digit? (c : Char) : Option Nat :=
  if 'A' ≤ c ∧ c ≤ 'Z' then some (c.toNat - 'A'.toNat)
  else if 'a' ≤ c ∧ c ≤ 'z' then some (c.toNat - 'a'.toNat + 26)
  else if '0' ≤ c ∧ c ≤ '9' then some (c.toNat - '0'.toNat + 52)
  else if c = '+' then some 62
  else if c = '/' then some 63
  else none

/-- Read on: `held` are the digits of the four that are being read, `fill` the equals signs behind
them. -/
def read (held : List Nat) (fill : Nat) : List Char → Option (List UInt8)
  | [] => if held.isEmpty then some [] else none
  | c :: rest =>
    if c = '=' then
      if held.length ≥ 2 then
        if held.length + fill + 1 ≥ 4 then some [] else read held (fill + 1) rest
      else read held fill rest
    else match digit? c with
      | none => read held fill rest
      | some d =>
        match held with
        | [] => read [d] 0 rest
        | [a] => (read [a, d] 0 rest).map ((a * 4 + d / 16).toUInt8 :: ·)
        | [a, b] => (read [a, b, d] 0 rest).map ((b % 16 * 16 + d / 4).toUInt8 :: ·)
        | _ :: _ :: third :: _ => (read [] 0 rest).map ((third % 4 * 64 + d).toUInt8 :: ·)

def decode (cs : List Char) : Option (List UInt8) := read [] 0 cs

example : decode "aGk=\n".toList = some [104, 105] := by decide +kernel

example : decode "aGk".toList = none ∧ decode "a=G=k=".toList = some [104, 105] := by
  decide +kernel

end Rollout.Text.Base64
