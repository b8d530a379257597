import RoleSchema.Text.Quoted

/-!
# Character encodings

The encodings in which schemas are written and documents are read. Some are known here, as schemes,
each by its aliases in any case and with any separators; others a machine has installed, of which
only that is taken for granted which the structure `Codec` says. `encode` gives the bytes of a text
or the run of characters that cannot be written; `Scheme.decode` reads bytes, an ill-formed sequence
becoming the code point that no document may hold.
-/

namespace RoleSchema.Text

/-- The encodings that are known here, by the form of their bytes. -/
inductive Scheme where
  | ascii
  | latin1
  | windows1252
  | utf8
  /-- UTF-8 with a byte order mark. -/
  | utf8Marked
  /-- UTF-16 in little-endian order with a byte order mark. -/
  | utf16Marked
  | utf16Little
  | utf16Big
  /-- UTF-32 in little-endian order with a byte order mark. -/
  | utf32Marked
  | utf32Little
  | utf32Big
  deriving DecidableEq, Repr

/-- A run of characters for which an encoding has no bytes. -/
structure Encoding.Unencodable where
  /-- What the encoding is called in messages. -/
  encoding : String
  /-- Why there are no bytes. -/
  reason : String
  /-- The first character of the run. -/
  char : Char
  /-- How many characters precede the run. -/
  start : Nat
  /-- How many characters the run has. -/
  length : Nat
  deriving DecidableEq, Repr

/-- The wording of a failure to encode. -/
def Encoding.Unencodable.message (u : Unencodable) : String :=
  let run :=
    if u.length = 1 then
      "character '" ++ String.ofList (codePointEscape u.char.toNat) ++ "' in position " ++
        toString u.start
    else
      "characters in position " ++ toString u.start ++ "-" ++ toString (u.start + u.length - 1)
  "'" ++ u.encoding ++ "' codec can't encode " ++ run ++ ": " ++ u.reason

namespace Scheme

open Encoding (Unencodable)

/-- The names of each encoding, letters in lower case and words joined by `_`. -/
def names : List (Scheme × List String) :=
  [(.ascii, ["ascii", "646", "ansi_x3.4_1968", "ansi_x3_4_1968", "ansi_x3.4_1986", "cp367",
      "csascii", "ibm367", "iso646_us", "iso_646.irv_1991", "iso_ir_6", "us", "us_ascii"]),
    (.latin1, ["latin_1", "8859", "cp819", "csisolatin1", "ibm819", "iso8859", "iso8859_1",
      "iso_8859_1", "iso_8859_1_1987", "iso_ir_100", "l1", "latin", "latin1"]),
    (.windows1252, ["cp1252", "1252", "windows_1252"]),
    (.utf8, ["utf_8", "u8", "utf", "utf8", "utf8_ucs2", "utf8_ucs4", "cp65001"]),
    (.utf8Marked, ["utf_8_sig"]),
    (.utf16Marked, ["utf_16", "u16", "utf16"]),
    (.utf16Little, ["utf_16_le", "unicodelittleunmarked", "utf_16le"]),
    (.utf16Big, ["utf_16_be", "unicodebigunmarked", "utf_16be"]),
    (.utf32Marked, ["utf_32", "u32", "utf32"]),
    (.utf32Little, ["utf_32_le", "utf_32le"]),
    (.utf32Big, ["utf_32_be", "utf_32be"])]

/-- A name with its letters in lower case and every run of characters that are neither letters,
digits nor points replaced by one `_`, or by nothing at the ends. -/
def normalFrom (gap begun : Bool) : List Char → List Char
  | [] => []
  | c :: rest =>
    if c.isAlphanum || c == '.' then
      if gap && begun then '_' :: c.toLower :: normalFrom false true rest
      else c.toLower :: normalFrom false true rest
    else normalFrom true begun rest

/-- The scheme that goes by a name. In all names but the first a point can stand for `_`. -/
def ofName? (name : String) : Option Scheme :=
  let key := normalFrom false false name.toList
  let joined := key.map fun c => if c = '.' then '_' else c
  (names.find? fun e =>
    e.2.contains (String.ofList key) || e.2.tail.contains (String.ofList joined)).map Prod.fst

/-! ## Writing -/

/-- The code points that the upper half of Windows-1252 holds beyond Latin-1; zero where a byte
stands for nothing. -/
def windows1252Upper : List Nat :=
  [0x20AC, 0, 0x201A, 0x192, 0x201E, 0x2026, 0x2020, 0x2021, 0x2C6, 0x2030, 0x160, 0x2039, 0x152, 0,
    0x17D, 0, 0, 0x2018, 0x2019, 0x201C, 0x201D, 0x2022, 0x2013, 0x2014, 0x2DC, 0x2122, 0x161,
    0x203A, 0x153, 0, 0x17E, 0x178]

/-- The 16-bit units of a code point. -/
def units16 (n : Nat) : List Nat :=
  if n < 0x10000 then [n]
  else [0xD800 + (n - 0x10000) / 0x400, 0xDC00 + (n - 0x10000) % 0x400]

/-- A number as `count` bytes, the least significant first. -/
def littleBytes : Nat → Nat → List UInt8
  | 0, _ => []
  | count + 1, n => UInt8.ofNat (n % 256) :: littleBytes count (n / 256)

/-- The bytes of one character; `none` where the encoding has none for it. -/
def encodeChar (e : Scheme) (c : Char) : Option (List UInt8) :=
  let n := c.toNat
  match e with
  | .ascii => if n < 0x80 then some [UInt8.ofNat n] else none
  | .latin1 => if n < 0x100 then some [UInt8.ofNat n] else none
  | .windows1252 =>
    if n < 0x80 || (0xA0 ≤ n && n < 0x100) then some [UInt8.ofNat n]
    else
      match windows1252Upper.idxOf? n with
      | some i => if n = 0 then none else some [UInt8.ofNat (0x80 + i)]
      | none => none
  | .utf8 | .utf8Marked => some (String.utf8EncodeChar c)
  | .utf16Marked | .utf16Little => some ((units16 n).flatMap (littleBytes 2))
  | .utf16Big => some ((units16 n).flatMap fun u => (littleBytes 2 u).reverse)
  | .utf32Marked | .utf32Little => some (littleBytes 4 n)
  | .utf32Big => some (littleBytes 4 n).reverse

/-- The byte order mark that an encoding writes at the beginning. -/
def mark : Scheme → List UInt8
  | .utf8Marked => [0xEF, 0xBB, 0xBF]
  | .utf16Marked => [0xFF, 0xFE]
  | .utf32Marked => [0xFF, 0xFE, 0, 0]
  | _ => []

/-- How the characters of an encoding with few of them are told of. -/
def scope : Scheme → String × String
  | .ascii => ("ascii", "ordinal not in range(128)")
  | .latin1 => ("latin-1", "ordinal not in range(256)")
  | _ => ("charmap", "character maps to <undefined>")

/-- The bytes of characters, `start` of which have been written before. -/
def encodeFrom (e : Scheme) (start : Nat) : List Char → Except Unencodable (List UInt8)
  | [] => .ok []
  | c :: rest =>
    match e.encodeChar c with
    | some bytes => (encodeFrom e (start + 1) rest).map (bytes ++ ·)
    | none =>
      let others := rest.takeWhile fun d => (e.encodeChar d).isNone
      .error ⟨e.scope.1, e.scope.2, c, start, 1 + others.length⟩

/-- The bytes of a text. -/
def encode (e : Scheme) (s : String) : Except Unencodable (List UInt8) :=
  (e.encodeFrom 0 s.toList).map (e.mark ++ ·)

/-! ## Reading -/

/-- The code point that stands for bytes that encode nothing. -/
def illFormed : Char := '\uFFFF'

/-- The character of a code point, if it is one. -/
def charOf (n : Nat) : Char :=
  if h : n.isValidChar then Char.ofNatAux n h else illFormed

/-- The number of continuation bytes that follow a first byte of UTF-8, and its own bits. -/
def utf8Lead (b : Nat) : Option (Nat × Nat) :=
  if b < 0x80 then some (0, b)
  else if 0xC2 ≤ b && b < 0xE0 then some (1, b - 0xC0)
  else if 0xE0 ≤ b && b < 0xF0 then some (2, b - 0xE0)
  else if 0xF0 ≤ b && b < 0xF5 then some (3, b - 0xF0)
  else none

/-- Whether a sequence of UTF-8 is longer than the code point needs. -/
def overlong (continuation n : Nat) : Bool :=
  (continuation == 2 && n < 0x800) || (continuation == 3 && n < 0x10000)

/-- Reads UTF-8. `owed` continuation bytes are missing of a sequence of `total`, whose bits so far
are `bits`; with none owed a new character begins. -/
def decodeUtf8From (total owed bits : Nat) : List UInt8 → List Char
  | [] => if owed = 0 then [] else [illFormed]
  | b :: rest =>
    if owed = 0 then
      match utf8Lead b.toNat with
      | some (0, n) => charOf n :: decodeUtf8From 0 0 0 rest
      | some (k, n) => decodeUtf8From k k n rest
      | none => illFormed :: decodeUtf8From 0 0 0 rest
    else if b.toNat / 64 = 2 then
      let n := bits * 64 + b.toNat % 64
      if owed = 1 then
        (if overlong total n then illFormed else charOf n) :: decodeUtf8From 0 0 0 rest
      else decodeUtf8From total (owed - 1) n rest
    else illFormed :: illFormed :: decodeUtf8From 0 0 0 rest

/-- Reads 16-bit units. -/
def decodeUnits16 : List Nat → List Char
  | [] => []
  | [u] => [charOf u]
  | u :: v :: rest =>
    if 0xD800 ≤ u && u < 0xDC00 && 0xDC00 ≤ v && v < 0xE000 then
      charOf (0x10000 + (u - 0xD800) * 0x400 + (v - 0xDC00)) :: decodeUnits16 rest
    else charOf u :: decodeUnits16 (v :: rest)

/-- Pairs of bytes as 16-bit units; a byte left over belongs to none. -/
def pairUnits (big : Bool) : List UInt8 → List Nat
  | a :: b :: rest =>
    (if big then a.toNat * 256 + b.toNat else b.toNat * 256 + a.toNat) :: pairUnits big rest
  | [_] => [0xFFFF]
  | [] => []

/-- Groups of four bytes as code points. -/
def quadUnits (big : Bool) : List UInt8 → List Nat
  | a :: b :: c :: d :: rest =>
    (if big then ((a.toNat * 256 + b.toNat) * 256 + c.toNat) * 256 + d.toNat
      else ((d.toNat * 256 + c.toNat) * 256 + b.toNat) * 256 + a.toNat) :: quadUnits big rest
  | [] => []
  | _ => [0xFFFF]

/-- The character of one byte in an encoding of one byte per character. -/
def decodeByte (e : Scheme) (b : UInt8) : Char :=
  let n := b.toNat
  match e with
  | .ascii => if n < 0x80 then Char.ofNat n else illFormed
  | .windows1252 =>
    if 0x80 ≤ n && n < 0xA0 then
      match windows1252Upper[n - 0x80]? with
      | some 0 | none => illFormed
      | some m => charOf m
    else Char.ofNat n
  | _ => Char.ofNat n

/-- The characters of bytes without a byte order mark. -/
def decode (e : Scheme) (bytes : List UInt8) : List Char :=
  match e with
  | .ascii | .latin1 | .windows1252 => bytes.map (decodeByte e)
  | .utf8 | .utf8Marked => decodeUtf8From 0 0 0 bytes
  | .utf16Marked | .utf16Little => decodeUnits16 (pairUnits false bytes)
  | .utf16Big => decodeUnits16 (pairUnits true bytes)
  | .utf32Marked | .utf32Little => (quadUnits false bytes).map charOf
  | .utf32Big => (quadUnits true bytes).map charOf

end Scheme

/-! ## Encodings of a machine -/

/-- An encoding that a machine has installed. -/
structure Codec where
  /-- The bytes of a text. -/
  encode : String → Except Encoding.Unencodable (List UInt8)
  /-- What the single bytes are read as, the replacement character standing for nothing; `none`
  where a character can have several bytes. -/
  alphabet : Option (Vector Char 256)
  /-- Only the empty text has no bytes. -/
  encode_ne_nil : ∀ {s : String} {bytes : List UInt8}, encode s = .ok bytes → s ≠ "" → bytes ≠ []

/-- The encodings that a machine has installed, by their names. -/
abbrev Codecs := String → Option Codec

/-- An encoding. -/
inductive Encoding where
  | known (scheme : Scheme)
  | installed (codec : Codec)

namespace Encoding

/-- The encoding UTF-8. -/
abbrev utf8 : Encoding := .known .utf8

/-- The encoding that goes by a name: one that is known here, or else one that is installed. -/
def ofName? (codecs : Codecs) (name : String) : Option Encoding :=
  match Scheme.ofName? name with
  | some scheme => some (.known scheme)
  | none => (codecs name).map .installed

/-- The bytes of a text. -/
def encode : Encoding → String → Except Unencodable (List UInt8)
  | .known scheme, s => scheme.encode s
  | .installed codec, s => codec.encode s

end Encoding

end RoleSchema.Text
