import RoleSchema.Text.Ranges
import RoleSchema.Xml.NameTable

/-!
# The characters of documents

Which characters a document may hold, and which of them are blanks and make up names. A colon is
no name character: it joins a prefix and a name.
-/

namespace RoleSchema.Xml

open Text (inRanges)

/-- Space, tab, line feed and carriage return. -/
def isBlank (c : Char) : Bool := c == ' ' || c == '\t' || c == '\n' || c == '\r'

/-- Whether a document may hold a character: no control character but tab, line feed and carriage
return, and neither of the last two code points of sixteen bits. -/
def isAllowed (c : Char) : Bool :=
  if c.toNat < 0x20 then isBlank c else c.toNat != 0xFFFE && c.toNat != 0xFFFF

/-- Which characters beyond ASCII count as letters: that hangs on how a document is encoded. -/
inductive Alphabet where
  /-- The letters of the standard, all of them in several bytes. -/
  | standard
  /-- The letters of the standard, as far as they have single bytes. -/
  | singleByte
  /-- Beside the letters of the standard the two ordinal indicators and the micro sign. The first
  256 characters go together. -/
  | latin
  deriving DecidableEq, Repr

/-- The letters that only the wider alphabet has. -/
def latinLetters : List Char := ['\xAA', '\xB5', '\xBA']

/-- Whether a name can begin with a character. -/
def isNameStart (a : Alphabet) (c : Char) : Bool :=
  if c.toNat < 0x80 then c.isAlpha || c == '_'
  else inRanges nameStartRanges c.toNat || (a == .latin && latinLetters.contains c)

/-- Whether a name can hold a character. -/
def isNameChar (a : Alphabet) (c : Char) : Bool :=
  if c.toNat < 0x80 then c.isAlphanum || c == '_' || c == '-' || c == '.'
  else isNameStart a c || inRanges nameTailRanges c.toNat

/-- Whether the keyword of a declaration can hold a character: a letter of ASCII, or one that goes
together with those. -/
def isKeywordChar (a : Alphabet) (c : Char) : Bool :=
  isNameStart a c &&
    (c.toNat < 0x80 || a == .singleByte || (a == .latin && c.toNat < 0x100))

/-- The character with a number, if a document can refer to it. -/
def charOfNumber? (n : Nat) : Option Char :=
  if h : n.isValidChar then
    let c := Char.ofNatAux n h
    if isAllowed c then some c else none
  else none

end RoleSchema.Xml
