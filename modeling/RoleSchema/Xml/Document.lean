import RoleSchema.Text.Encoding
import RoleSchema.Xml.Content
import RoleSchema.Xml.Doctype.Basic

/-!
# Documents

A document is an XML declaration, a document type declaration, the root element, and asides around
it. `Document.ofText` reads it from a text, which needs no encoding, and `Document.ofBytes` from
bytes, whose encoding is known from their byte order mark or from the declaration.
-/

namespace RoleSchema.Xml

/-! ## The XML declaration -/

/-- A setting of the XML declaration. -/
structure HeaderSetting where
  name : String
  namePlace : List Char
  value : String
  valuePlace : List Char

/-- What the XML declaration says. -/
structure Header where
  isStandalone : Bool := false
  /-- The encoding, and the text that begins with its name. -/
  encoding : Option (String × List Char) := none

namespace Header

/-- Breaks off at a place. -/
def badAt {α : Type} (place : List Char) : Scanner α := fun _ _ => .error (.misfit place)

/-- Reads the next setting, if there is one. -/
def setting? : Scanner (Option HeaderSetting) := do
  if (← get).isEmpty then return none
  if !(← Scanner.blanks) then Scanner.refuse
  let namePlace ← get
  if namePlace.isEmpty then return none
  let name ← Scanner.run fun c => c != '=' && !isBlank c && c.toNat < 0x80
  let _ ← Scanner.blanks
  if name.isEmpty then Scanner.refuse
  let _ ← Scanner.one (· == '=')
  let _ ← Scanner.blanks
  let quote ← Scanner.one fun c => c == '"' || c == '\''
  let valuePlace ← get
  let value ← Scanner.run fun c => c.isAlphanum || c == '.' || c == '-' || c == '_'
  let _ ← Scanner.one (· == quote)
  return some ⟨String.ofList name, namePlace, String.ofList value, valuePlace⟩

/-- Reads the last setting. -/
def standalone (h : Header) (s : HeaderSetting) : Scanner Header := do
  if s.name != "standalone" then badAt s.namePlace
  if s.value != "yes" && s.value != "no" then badAt s.valuePlace
  let _ ← Scanner.blanks
  if !(← get).isEmpty then Scanner.refuse
  return { h with isStandalone := s.value == "yes" }

/-- Reads the settings: the version, then perhaps the encoding, then perhaps whether the document
stands alone. -/
def settings : Scanner Header := do
  let start ← get
  match ← setting? with
  | none => badAt start
  | some version =>
    if version.name != "version" then badAt version.namePlace
    match ← setting? with
    | none => return {}
    | some s =>
      if s.name != "encoding" then standalone {} s
      else
        if !(s.value.toList.head?.map Char.isAlpha).getD false then badAt s.valuePlace
        let h : Header := { encoding := some (s.value, s.valuePlace) }
        match ← setting? with
        | none => return h
        | some s => standalone h s

/-- Reads the declaration whose text stands between `place` and `rest`, without the marks at its
ends. -/
def ofText (place rest : List Char) : Except Fault Header :=
  let inner := place.drop 5
  let body := inner.take (inner.length - rest.length - 2)
  let outer (r : List Char) := inner.drop (body.length - r.length)
  match settings .standard body with
  | .ok (h, _) => .ok { h with encoding := h.encoding.map fun e => (e.1, outer e.2) }
  | .error .ended => .error ⟨.malformedDeclaration, outer []⟩
  | .error (.misfit r) => .error ⟨.malformedDeclaration, outer r⟩

end Header

namespace Document

/-- Reads the XML declaration, if a text begins with one. -/
def header (a : Alphabet) (text : List Char) : Except Fault (Header × List Char) := do
  if isBlank (text.headD ' ') then return ({}, text)
  match ← Token.next a text with
  | some (.xmlDeclaration, place, rest) => return (← Header.ofText place rest, rest)
  | _ => return ({}, text)

/-- Reads what stands before the root element. -/
def prolog (a : Alphabet) (hasDoctype : Bool) :
    Nat → Declarations → List Char → Except Fault (Declarations × List Char)
  | 0, _, text => .error ⟨.noElement, text⟩
  | fuel + 1, d, text => do
    match ← Token.next a text with
    | none => throw ⟨.noElement, []⟩
    | some (.aside, _, rest) => prolog a hasDoctype fuel d rest
    | some (.element, place, _) => return (d, place)
    | some (.opening "DOCTYPE", place, rest) =>
      if hasDoctype then throw ⟨.unexpectedMarkup, place⟩
      let (d, rest) ← Doctype.declaration d a rest
      prolog a true fuel d rest
    | some (t, place, _) => throw (Doctype.misplaced t place)

/-- Checks what stands after the root element. -/
def epilog (a : Alphabet) : Nat → List Char → Except Fault Unit
  | 0, _ => .ok ()
  | fuel + 1, text => do
    match ← Token.next a text with
    | none => return
    | some (.aside, _, rest) => epilog a fuel rest
    | some (_, place, _) => throw ⟨.junkAfterElement, place⟩

/-- How many bytes the entities of a document of some size may come to: together with the document
eight mebibytes, or a hundred times its size. -/
def allowanceFor (size : Nat) : Nat := max 8388607 (100 * size) - size

/-- Reads the characters of a document after its byte order mark. -/
def ofChars (a : Alphabet) (text : List Char) : Except Fault Element := do
  let (h, rest) ← header a text
  let start : Declarations :=
    { isStandalone := h.isStandalone, allowance := allowanceFor text.length }
  let (d, rest) ← prolog a false (rest.length + 1) start rest
  let (root, rest) ← d.weighed.root a rest
  epilog a (rest.length + 1) rest
  return root

/-- The byte order mark as a character. -/
def byteOrderMark : Char := '\uFEFF'

/-- The characters after a byte order mark. -/
def unmarked : List Char → List Char
  | c :: rest => if c == byteOrderMark then rest else c :: rest
  | [] => []

/-! ## Encodings -/

open Text (Codecs Encoding Scheme)

/-- The encoding that the first bytes show: that of their byte order mark, UTF-16 if one of the
first two is zero, and otherwise UTF-8. -/
def shownEncoding : List UInt8 → Scheme
  | 0xFE :: 0xFF :: _ => .utf16Big
  | 0xFF :: 0xFE :: _ => .utf16Little
  | 0 :: _ :: _ => .utf16Big
  | _ :: 0 :: _ => .utf16Little
  | _ => .utf8

/-- The alphabet that goes with the encoding that the first bytes show. -/
def shownAlphabet (shown : Scheme) : Alphabet := if shown = .utf8 then .standard else .latin

/-- Reads a document from a text, in which a declared encoding means nothing. A null character among
the first two shows that the bytes of the text are those of another encoding. -/
def ofText (s : String) : Except Complaint Element :=
  let bytes := s.toUTF8.toList
  let shown := shownEncoding bytes
  let chars := if shown = .utf8 then s.toList else shown.decode bytes
  (ofChars (shownAlphabet shown) (unmarked chars)).mapError fun f => f.complaint chars

/-- How the bytes of a document are read: by a scheme, or one by one by a table. -/
inductive Reading where
  | scheme (e : Scheme)
  | table (characters : Vector Char 256)

namespace Reading

/-- The characters of bytes. A byte that stands for nothing in a table is ill-formed. -/
def decode : Reading → List UInt8 → List Char
  | .scheme e, bytes => e.decode bytes
  | .table characters, bytes =>
    bytes.map fun b =>
      let c := characters.get ⟨b.toNat, b.toNat_lt⟩
      if c = '\uFFFD' then Scheme.illFormed else c

/-- Whether bytes are read as UTF-8. -/
def isUtf8 : Reading → Bool
  | .scheme .utf8 => true
  | _ => false

end Reading

/-- Whether a character must have the one byte that it has in ASCII: blanks, and all that is printed
but some signs that stand for nothing in a document. -/
def isFixed (c : Char) : Bool :=
  ['\t', '\n', '\r'].contains c ||
    (' ' ≤ c && c ≤ '~' && !"$@\\^`\x7b\x7d~".toList.contains c)

/-- Whether a document can be read by a table: fixed characters are where they are in ASCII, and no
character needs more than 16 bits. -/
def isSuitable (characters : Vector Char 256) : Bool :=
  characters.toList.zipIdx.all fun (c, n) =>
    c.toNat ≤ 0xFFFF && (c.toNat == n || !(isFixed c || (n < 0x80 && isFixed (Char.ofNat n))))

/-- The reading of documents that declare an encoding by a name that is not a standard one. -/
def namedReading (codecs : Codecs) (name : String) : Except Problem Reading :=
  match Encoding.ofName? codecs name with
  | some (.known .latin1) => .ok (.scheme .latin1)
  | some (.known .windows1252) => .ok (.scheme .windows1252)
  | some (.known .ascii) | some (.known .utf8) | some (.known .utf8Marked) => .ok (.scheme .ascii)
  | some (.known _) => .error .wideEncoding
  | some (.installed codec) =>
    match codec.alphabet with
    | none => .error .wideEncoding
    | some characters =>
      if isSuitable characters then .ok (.table characters) else .error .unsuitableEncoding
  | none => .error (.unknownEncoding name)

/-- The reading of a document that shows one encoding and declares another by name, and its
alphabet. A name outside the standard can stand for a table of single bytes. -/
def declaredReading (codecs : Codecs) (shown : Scheme) (name : String) :
    Except Problem (Reading × Alphabet) :=
  let key := name.toLower
  let wide := ["utf-16", "utf-16be", "utf-16le"].contains key
  if shown = .utf8 then
    if key = "utf-8" then .ok (.scheme .utf8, .standard)
    else if key = "iso-8859-1" then .ok (.scheme .latin1, .latin)
    else if key = "us-ascii" then .ok (.scheme .ascii, .standard)
    else if wide then .error .incorrectEncoding
    else (namedReading codecs name).map fun r => (r, .singleByte)
  else if key = "utf-16" || (key = "utf-16be" && shown = .utf16Big) ||
    (key = "utf-16le" && shown = .utf16Little) then .ok (.scheme shown, .latin)
  else if wide || ["utf-8", "iso-8859-1", "us-ascii"].contains key then .error .incorrectEncoding
  else (namedReading codecs name).bind fun _ => .error .incorrectEncoding

/-- How many characters of an encoding the byte order mark of UTF-8 takes, if bytes begin with
it. -/
def markWidth (r : Reading) : List UInt8 → Nat
  | 0xEF :: 0xBB :: 0xBF :: _ => if r.isUtf8 then 1 else 3
  | _ => 0

/-- How many bytes at the end of UTF-8 belong to a character that is not complete. -/
def brokenTail (bytes : List UInt8) : Nat :=
  let last := bytes.drop (bytes.length - 3)
  match (List.range last.length).find? fun i =>
    ((Scheme.utf8Lead ((last.drop i).headD 0).toNat).any fun l => last.length - i ≤ l.1) with
  | some i => last.length - i
  | none => 0

/-- The fault of a document that breaks off within a character: what would be missing at its end is
the rest of that. -/
def brokenOff (f : Fault) : Fault :=
  match f.problem with
  | .unclosedToken | .noElement | .unclosedCdata => { f with problem := .partialCharacter }
  | _ => f

/-- Reads a document from bytes in an encoding. -/
def ofBytesIn (shown : Scheme) (r : Reading) (a : Alphabet) (bytes : List UInt8) :
    Except Complaint Element :=
  let broken := if r.isUtf8 then brokenTail bytes else 0
  let chars := r.decode (bytes.take (bytes.length - broken))
  let text := if shown = .utf8 then chars.drop (markWidth r bytes) else unmarked chars
  if broken = 0 then (ofChars a text).mapError fun f => f.complaint chars
  else
    match ofChars a text with
    | .ok _ => .error ((⟨.partialCharacter, []⟩ : Fault).complaint chars)
    | .error f => .error ((brokenOff f).complaint chars)

/-- Reads a document from bytes, on a machine with some encodings. -/
def ofBytes (codecs : Codecs) (bytes : List UInt8) : Except Complaint Element :=
  let shown := shownEncoding bytes
  let chars := shown.decode bytes
  match header (shownAlphabet shown) (unmarked chars) with
  | .ok (⟨_, some (name, place)⟩, _) =>
    match declaredReading codecs shown name with
    | .error p => .error ((⟨p, place⟩ : Fault).complaint chars)
    | .ok (r, a) => ofBytesIn shown r a bytes
  | _ => ofBytesIn shown (.scheme shown) (shownAlphabet shown) bytes

end Document

end RoleSchema.Xml
