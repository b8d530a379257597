import RoleSchema.Text.Split
import RoleSchema.Text.Utf8
import RoleSchema.Yaml.Cursor

/-!
# Sources

The text of a file is read in blocks. Bytes that are no text, and characters that no text of
settings may hold, are noticed when their block is read, and so only if reading comes to it.
-/

namespace RoleSchema.Yaml

/-- A text as far as it can be read, and what comes of reading on. -/
structure Source where
  text : List Char
  torn : Option Fault := none
  deriving Repr

namespace Source

/-- The number of bytes that are decoded at once. -/
def chunkSize : Nat := 8192

/-- The number of characters that are read at once. -/
def blockSize : Nat := 4096

/-- Where the block of a character begins; at the beginning two blocks are read at once. -/
def blockStart (n : Nat) : Nat :=
  let block := n / blockSize
  if block < 2 then 0 else block * blockSize

/-- The wording for bytes from a position on that are no text. -/
def undecodable (position : Nat) (bytes : List UInt8) (reason : String) : Fault :=
  let place := match bytes with
    | [b] => "byte 0x" ++ String.ofList (Text.hexDigits 2 b.toNat) ++ " in position " ++
        toString position
    | _ => "bytes in position " ++ toString position ++ "-" ++
        toString (position + bytes.length - 1)
  .undecodable ("'utf-8' codec can't decode " ++ place ++ ": " ++ reason)

/-- A text that breaks off at the block of a character, where `fault` is noticed. -/
def tornAt (chars : List Char) (n : Nat) (fault : Fault) : Source :=
  ⟨chars.take (blockStart n), some fault⟩

/-- The source of characters, behind which there may be bytes that are no text. -/
def ofChars (chars : List Char) (fault : Option Fault) : Source :=
  let printable := (chars.takeWhile isPrintable).length
  match fault with
  | none => if printable = chars.length then ⟨chars, none⟩ else tornAt chars printable .malformed
  | some f =>
    if blockStart printable < blockStart chars.length then tornAt chars printable .malformed
    else tornAt chars chars.length f

/-- The source of bytes. Those that are no text count from the beginning of their chunk, or of a
character that the chunk before has left incomplete. -/
def ofBytes (bytes : List UInt8) : Source :=
  match String.fromUTF8? ⟨bytes.toArray⟩ with
  | some s => ofChars (Text.unifyLineEnds s.toList) none
  | none =>
    let d := Text.Utf8.decode bytes
    let (start, head) := d.fault.getD (0, .incomplete)
    let (size, last, reason) := match head with
      | .notContinued size => (size, start + size, "invalid continuation byte")
      | .incomplete => (bytes.length - start, bytes.length + chunkSize, "unexpected end of data")
      | _ => (1, start, "invalid start byte")
    let chunk := last / chunkSize * chunkSize
    let known := d.chars.takeWhile fun c => c.2 ≤ chunk
    let origin := (known.getLast?.map Prod.snd).getD 0
    ofChars (Text.unifyLineEnds (known.map Prod.fst))
      (some (undecodable (start - origin) ((bytes.drop start).take size) reason))

end Source

end RoleSchema.Yaml
