import RoleSchema.Text.Quoted

/-!
# Places in a text of settings

A cursor is a place in a text: what is left of it, and the line and the column. The text ends with a
null character, which it does not hold.
-/

namespace RoleSchema.Yaml

/-- Why a text of settings has no values. -/
inductive Fault where
  /-- The text does not follow the rules of the notation. -/
  | malformed
  /-- Nothing is known that a tag stands for. -/
  | unknownTag (tag : String)
  /-- The bytes of a file are no text. -/
  | undecodable (message : String)
  /-- A number or a time is not one, or out of its range. -/
  | badValue (message : String)
  /-- A number is too large for what it is to be. -/
  | tooLarge (message : String)
  /-- A word is no truth value. -/
  | unknownWord (word : String)
  /-- A number has no digits. -/
  | noDigits
  /-- A text is no time. -/
  | noTime
  /-- A time is not given by a text. -/
  | timeNotText
  /-- Collections are too deep in one another. -/
  | tooDeep
  deriving DecidableEq, Repr

namespace Fault

/-- The wording of a fault; what is wrong with the notation is not told. -/
def message : Fault → String
  | .malformed => "malformed"
  | .unknownTag tag => "could not determine a constructor for the tag " ++ Text.quoted tag
  | .undecodable message | .badValue message | .tooLarge message => message
  | .unknownWord word => Text.quoted word
  | .noDigits => "string index out of range"
  | .noTime => "'NoneType' object has no attribute 'groupdict'"
  | .timeNotText => "expected string or bytes-like object, got 'list'"
  | .tooDeep => "maximum recursion depth exceeded"

/-- Whether a fault is one of the notation, and not of what is written in it. -/
def isOfNotation : Fault → Bool
  | .malformed | .unknownTag _ => true
  | _ => false

end Fault

/-! ## Characters -/

/-- The character that is read at the end of a text. -/
def endMark : Char := '\x00'

/-- The characters that end a line. -/
def isBreak (c : Char) : Bool :=
  c == '\n' || c == '\r' || c == '\x85' || c == '\u2028' || c == '\u2029'

/-- The characters that end a line, or the end of the text. -/
def isLineEnd (c : Char) : Bool := isBreak c || c == endMark

/-- The characters between words, or the end of the text. -/
def isGap (c : Char) : Bool := isLineEnd c || c == ' ' || c == '\t'

/-- The characters of the names of anchors and directives. -/
def isWordChar (c : Char) : Bool := c.isAlphanum || c == '-' || c == '_'

/-- The characters that a text may hold: those that can be printed, tabs and line ends. -/
def isPrintable (c : Char) : Bool :=
  let n := c.toNat
  n == 0x09 || n == 0x0A || n == 0x0D || (0x20 ≤ n && n ≤ 0x7E) || n == 0x85 ||
    (0xA0 ≤ n && n ≤ 0xD7FF) || (0xE000 ≤ n && n ≤ 0xFFFD) || 0x10000 ≤ n

/-! ## Cursors -/

/-- A place in a text. -/
structure Cursor where
  rest : List Char
  index : Nat := 0
  line : Nat := 0
  column : Nat := 0
  /-- More than the number of characters of the whole text, which bounds what is read from it. -/
  size : Nat := 0
  deriving DecidableEq, Repr

namespace Cursor

/-- The beginning of a text; a byte order mark there is passed over. -/
def ofText (text : List Char) : Cursor :=
  match text with
  | '\uFEFF' :: rest => { rest, index := 1, size := text.length + 1 }
  | _ => { rest := text, size := text.length + 1 }

/-- The next character. -/
def peek (c : Cursor) : Char := c.rest.headD endMark

/-- The character after some others. -/
def peekAt (c : Cursor) (n : Nat) : Char := c.rest.getD n endMark

/-- Whether the text ends here. -/
def atEnd (c : Cursor) : Bool := c.rest.isEmpty

/-- The place after the next character. A carriage return before a line feed ends no line, and a
byte order mark has no width. -/
def next (c : Cursor) : Cursor :=
  match c.rest with
  | [] => c
  | ch :: rest =>
    let ends := if ch == '\r' then rest.headD endMark != '\n' else isBreak ch
    if ends then ⟨rest, c.index + 1, c.line + 1, 0, c.size⟩
    else
      ⟨rest, c.index + 1, c.line, if ch == '\uFEFF' then c.column else c.column + 1, c.size⟩

/-- The place after some characters. -/
def advance (c : Cursor) : Nat → Cursor
  | 0 => c
  | n + 1 => c.next.advance n

/-- The characters from here that satisfy a test, and the place after them. -/
def span (c : Cursor) (p : Char → Bool) : List Char × Cursor :=
  let taken := c.rest.takeWhile p
  (taken, c.advance taken.length)

/-- The place after the characters that satisfy a test. -/
def skip (c : Cursor) (p : Char → Bool) : Cursor := (c.span p).2

/-- The line end here, as it is kept: one line feed, or one of the two separators. -/
def lineBreak (c : Cursor) : List Char × Cursor :=
  match c.rest with
  | '\r' :: '\n' :: _ => (['\n'], c.advance 2)
  | ch :: _ =>
    if ch == '\n' || ch == '\r' || ch == '\x85' then (['\n'], c.next)
    else if isBreak ch then ([ch], c.next)
    else ([], c)
  | [] => ([], c)

/-- Whether a mark of three characters stands here on its own. -/
def atMark (c : Cursor) (mark : Char) : Bool :=
  c.rest.take 3 == [mark, mark, mark] && isGap (c.peekAt 3)

/-- Whether a mark between documents stands here. -/
def atSeparator (c : Cursor) : Bool := c.atMark '-' || c.atMark '.'

/-- The place after a remark, if one stands here. -/
def skipRemark (c : Cursor) : Cursor :=
  if c.peek == '#' then c.skip fun ch => !isLineEnd ch else c

/-- The place after the rest of a line, which may hold a remark only. -/
def skipLine (c : Cursor) : Except Fault Cursor :=
  let c := (c.skip (· == ' ')).skipRemark
  if isLineEnd c.peek then .ok c.lineBreak.2 else .error .malformed

end Cursor

end RoleSchema.Yaml
