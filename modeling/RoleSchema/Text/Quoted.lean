import RoleSchema.Text.Invisible

/-!
# Quoted text

A text in quotes, as it appears inside lists, mappings and error messages: single quotes unless the
text holds a single quote and no double one, the quote and the backslash escaped, and characters
without a glyph as escapes of their code points.
-/

namespace RoleSchema.Text

/-- The low `width` hexadecimal digits of a number. -/
def hexDigits : Nat → Nat → List Char
  | 0, _ => []
  | width + 1, n => hexDigits width (n / 16) ++ [Nat.digitChar (n % 16)]

/-- The escape of a code point: two, four or eight hexadecimal digits. -/
def codePointEscape (n : Nat) : List Char :=
  if n < 0x100 then '\\' :: 'x' :: hexDigits 2 n
  else if n < 0x10000 then '\\' :: 'u' :: hexDigits 4 n
  else '\\' :: 'U' :: hexDigits 8 n

/-- A character inside the given quotes. -/
def escape (quote c : Char) : List Char :=
  if c = quote || c = '\\' then ['\\', c]
  else if c = '\n' then ['\\', 'n']
  else if c = '\r' then ['\\', 'r']
  else if c = '\t' then ['\\', 't']
  else if isInvisible c then codePointEscape c.toNat
  else [c]

/-- The quote a text is written in. -/
def quoteFor (cs : List Char) : Char :=
  if cs.contains '\'' && !cs.contains '"' then '"' else '\''

/-- A text in quotes. -/
def quoted (s : String) : String :=
  let q := quoteFor s.toList
  String.ofList (q :: s.toList.flatMap (escape q) ++ [q])

/-- A code point inside the given quotes; a surrogate is an escape. -/
def escapePoint (quote : Char) (n : Nat) : List Char :=
  if h : n.isValidChar then escape quote (Char.ofNatAux n h) else codePointEscape n

/-- Code points in quotes. -/
def quotedPoints (ns : List Nat) : String :=
  let q := quoteFor (ns.map Char.ofNat)
  String.ofList (q :: ns.flatMap (escapePoint q) ++ [q])

/-- A byte inside the given quotes. -/
def escapeByte (quote : Char) (b : UInt8) : List Char :=
  if 0x7F ≤ b.toNat then codePointEscape b.toNat else escape quote (Char.ofNat b.toNat)

/-- Bytes in quotes. -/
def quotedBytes (bytes : List UInt8) : String :=
  let q := quoteFor (bytes.map fun b => Char.ofNat b.toNat)
  String.ofList ('b' :: q :: bytes.flatMap (escapeByte q) ++ [q])

end RoleSchema.Text
