/-
Bytes written with 64 characters, six bits each. Other characters do not count. An equals sign fills
up a group of four characters; a text may end only with a group or where one is filled up.
-/

namespace StateTraces.Text.Base64

/-- The six bits that a character stands for. -/
def bits? (c : Char) : Option Nat :=
  if 'A' ≤ c ∧ c ≤ 'Z' then some (c.toNat - 65)
  else if 'a' ≤ c ∧ c ≤ 'z' then some (c.toNat - 71)
  else if '0' ≤ c ∧ c ≤ '9' then some (c.toNat + 4)
  else if c = '+' then some 62
  else if c = '/' then some 63
  else none

/-- The bytes that a text writes. So far the group has `count` characters, the last of which left
`rest` over, and `fills` equals signs came after them. -/
def decodeFrom (count rest fills : Nat) : List Char → Option (List UInt8)
  | [] => if count = 0 then some [] else none
  | '=' :: cs =>
    if count < 2 then decodeFrom count rest fills cs
    else if 4 ≤ count + fills + 1 then some []
    else decodeFrom count rest (fills + 1) cs
  | c :: cs =>
    match bits? c with
    | none => decodeFrom count rest fills cs
    | some n =>
      let byte (b : Nat) (more : Option (List UInt8)) := more.map (b.toUInt8 :: ·)
      match count with
      | 0 => decodeFrom 1 n 0 cs
      | 1 => byte (rest * 4 + n / 16) (decodeFrom 2 (n % 16) 0 cs)
      | 2 => byte (rest * 16 + n / 4) (decodeFrom 3 (n % 4) 0 cs)
      | _ => byte (rest * 64 + n) (decodeFrom 0 0 0 cs)

def decode (cs : List Char) : Option (List UInt8) := decodeFrom 0 0 0 cs

end StateTraces.Text.Base64
