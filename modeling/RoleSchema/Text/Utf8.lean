import RoleSchema.Text.Encoding

/-!
# Texts in bytes

UTF-8 writes a character as one to four bytes. `Utf8.head` tells what stands at the beginning of
bytes, and `Utf8.decode` reads characters up to where the bytes are no text.
-/

namespace RoleSchema.Text.Utf8

/-- What stands at the beginning of bytes. -/
inductive Head where
  | char (c : Char) (size : Nat)
  /-- The bytes end within a character. -/
  | incomplete
  /-- No character begins with the first byte. -/
  | invalidStart
  /-- Behind some bytes of a character there is one that does not go on with it. -/
  | notContinued (size : Nat)
  deriving DecidableEq, Repr

/-- The least and the greatest byte that can be the second one of a character. -/
def secondBounds (first : Nat) : Nat × Nat :=
  match first with
  | 0xE0 => (0xA0, 0xBF)
  | 0xED => (0x80, 0x9F)
  | 0xF0 => (0x90, 0xBF)
  | 0xF4 => (0x80, 0x8F)
  | _ => (0x80, 0xBF)

/-- Goes on with a character of which `size` bytes with some bits have been read; the next byte must
be in some bounds. The first argument is the number of bytes that are missing. -/
def headFrom : Nat → Nat → Nat → Nat × Nat → List UInt8 → Head
  | 0, size, bits, _, _ => .char (Scheme.charOf bits) size
  | _ + 1, _, _, _, [] => .incomplete
  | owed + 1, size, bits, (least, most), b :: rest =>
    if least ≤ b.toNat && b.toNat ≤ most then
      headFrom owed (size + 1) (bits * 64 + b.toNat % 64) (0x80, 0xBF) rest
    else .notContinued size

/-- What stands at the beginning of bytes. -/
def head : List UInt8 → Head
  | [] => .incomplete
  | b :: rest =>
    match Scheme.utf8Lead b.toNat with
    | some (owed, bits) => headFrom owed 1 bits (secondBounds b.toNat) rest
    | none => .invalidStart

/-- What can be read of bytes. -/
structure Decoded where
  /-- The characters, each with the number of bytes up to its end. -/
  chars : List (Char × Nat) := []
  /-- Where the bytes are no text, and what is there instead of a character. -/
  fault : Option (Nat × Head) := none

/-- Reads bytes, of which `skip` belong to a character that has been read. -/
def decodeFrom (skip position : Nat) : List UInt8 → Decoded
  | [] => {}
  | b :: rest =>
    match skip with
    | n + 1 => decodeFrom n (position + 1) rest
    | 0 =>
      match head (b :: rest) with
      | .char c size =>
        let d := decodeFrom (size - 1) (position + 1) rest
        { d with chars := (c, position + size) :: d.chars }
      | other => { fault := some (position, other) }

/-- Reads bytes. -/
def decode (bytes : List UInt8) : Decoded := decodeFrom 0 0 bytes

end RoleSchema.Text.Utf8
