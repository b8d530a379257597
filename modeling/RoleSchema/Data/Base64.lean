/-!
# Bytes in printable characters

Base 64 writes three bytes as four characters, and fills the last four up with equals signs. Other
characters are passed over, and what follows the filling is not read.
-/

namespace RoleSchema.Base64

/-- The six bits that a character stands for. -/
def sextet? (c : Char) : Option Nat :=
  if c.isUpper then some (c.toNat - 65)
  else if c.isLower then some (c.toNat - 71)
  else if c.isDigit then some (c.toNat + 4)
  else if c == '+' then some 62
  else if c == '/' then some 63
  else none

/-- Reads characters, after `place` ones of a group of four, which have left `bits`; `fills` equals
signs came last. -/
def decodeFrom (place bits fills : Nat) : List Char → Option (List UInt8)
  | [] => if place = 0 then some [] else none
  | c :: rest =>
    if c == '=' then
      if 2 ≤ place && 4 ≤ place + fills + 1 then some []
      else decodeFrom place bits (if 2 ≤ place then fills + 1 else fills) rest
    else
      match sextet? c, place with
      | none, _ => decodeFrom place bits fills rest
      | some n, 0 => decodeFrom 1 n 0 rest
      | some n, 1 => (decodeFrom 2 (n % 16) 0 rest).map (UInt8.ofNat (bits * 4 + n / 16) :: ·)
      | some n, 2 => (decodeFrom 3 (n % 4) 0 rest).map (UInt8.ofNat (bits * 16 + n / 4) :: ·)
      | some n, _ => (decodeFrom 0 0 0 rest).map (UInt8.ofNat (bits * 64 + n) :: ·)

/-- The bytes that characters stand for; `none` where the last group is not complete. -/
def decode (cs : List Char) : Option (List UInt8) := decodeFrom 0 0 0 cs

end RoleSchema.Base64
