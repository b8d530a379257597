import RoleSchema.Yaml.Scalar

/-!
# Tokens

The tokens of a text of settings, and the readers of those that are not scalars: directives, anchors
and tags. Collections whose extent only the indentation shows have tokens for their ends, too.
-/

namespace RoleSchema.Yaml

/-- What a directive says. -/
inductive Directive where
  | version (major : Nat)
  | tagHandle (handle uri : String)
  | other
  deriving DecidableEq, Repr

/-- A token. -/
inductive Token where
  | directive (d : Directive)
  | documentStart
  | documentEnd
  | sequenceStart
  | mappingStart
  | collectionEnd
  | flowSequenceStart
  | flowSequenceEnd
  | flowMappingStart
  | flowMappingEnd
  | flowEntry
  | entry
  | key
  | value
  | alias (name : String)
  | anchor (name : String)
  | tag (handle : Option String) (suffix : String)
  | scalar (content : Content) (isPlain : Bool)
  deriving DecidableEq, Repr

namespace Cursor

/-- Reads a word of at least one character. -/
def word (c : Cursor) (p : Char → Bool) : Except Fault (String × Cursor) :=
  let (cs, c) := c.span p
  if cs.isEmpty then .error .malformed else .ok (String.ofList cs, c)

/-- The place here if what follows is a space or the end of a line. -/
def atWordEnd (c : Cursor) : Except Fault Cursor :=
  if isLineEnd c.peek || c.peek == ' ' then .ok c else .error .malformed

/-- The name of an anchor or an alias, read after its mark. -/
def anchorName (c : Cursor) : Except Fault (String × Cursor) := do
  let (name, c) ← c.word isWordChar
  if isGap c.peek || "?:,]\x7d%@\x60".contains c.peek then return (name, c)
  throw .malformed

/-! ## Tags -/

/-- The bytes of the escapes from here. -/
def escapedBytes : Nat → Cursor → Except Fault (List UInt8 × Cursor)
  | 0, c => .ok ([], c)
  | fuel + 1, c =>
    if c.peek == '%' then
      match hexNumber? (c.next.rest.take 2) with
      | some n => do
        if (c.rest.drop 2).isEmpty then throw .malformed
        let (others, c) ← escapedBytes fuel (c.advance 3)
        return (UInt8.ofNat n :: others, c)
      | none => .error .malformed
    else .ok ([], c)

/-- Whether a tag may hold a character. -/
def isTagChar (c : Char) : Bool := c.isAlphanum || "-;/?:@&=+$,_.!~*'()[]%".contains c

/-- The characters of a tag from here, escapes replaced. -/
def tagChars : Nat → Cursor → Except Fault (List Char × Cursor)
  | 0, c => .ok ([], c)
  | fuel + 1, c =>
    if c.peek == '%' then do
      let (bytes, c) ← c.escapedBytes c.size
      match String.fromUTF8? ⟨bytes.toArray⟩ with
      | some s => do
        let (others, c) ← tagChars fuel c
        return (s.toList ++ others, c)
      | none => throw .malformed
    else if isTagChar c.peek then do
      let (others, d) ← tagChars fuel c.next
      return (c.peek :: others, d)
    else .ok ([], c)

/-- A tag or the beginning of tags. -/
def tagUri (c : Cursor) : Except Fault (String × Cursor) := do
  let (cs, c) ← c.tagChars c.size
  if cs.isEmpty then throw .malformed
  return (String.ofList cs, c)

/-- The handle of a tag: an exclamation mark, perhaps a word and another exclamation mark. -/
def tagHandle (c : Cursor) : Except Fault (String × Cursor) :=
  if c.peek != '!' then .error .malformed
  else
    let (word, d) := c.next.span isWordChar
    if c.peekAt 1 == ' ' then .ok ("!", c.next)
    else if d.peek == '!' then .ok ("!" ++ String.ofList word ++ "!", d.next)
    else .error .malformed

/-- The tag that begins here. -/
def tag (c : Cursor) : Except Fault (Token × Cursor) := do
  let (t, c) ← if c.peekAt 1 == '<' then do
      let (uri, c) ← (c.advance 2).tagUri
      if c.peek != '>' then throw .malformed
      pure (Token.tag none uri, c.next)
    else if isGap (c.peekAt 1) then pure (Token.tag none "!", c.next)
    else do
      let ahead := c.next.rest.takeWhile fun ch => !(isLineEnd ch || ch == ' ')
      let (handle, c) ← if ahead.contains '!' then c.tagHandle else pure ("!", c.next)
      let (suffix, c) ← c.tagUri
      pure (Token.tag (some handle) suffix, c)
  return (t, ← c.atWordEnd)

/-! ## Directives -/

/-- A number of a version. -/
def versionNumber (c : Cursor) : Except Fault (Nat × Cursor) := do
  let (digits, c) ← c.word Char.isDigit
  return (digits.toNat?.getD 0, c)

/-- The directive that begins here. -/
def directive (c : Cursor) : Except Fault (Directive × Cursor) := do
  let (name, c) ← c.next.word isWordChar
  let c ← c.atWordEnd
  let (d, c) ← match name with
    | "YAML" => do
      let (major, c) ← (c.skip (· == ' ')).versionNumber
      if c.peek != '.' then throw .malformed
      let (_, c) ← c.next.versionNumber
      pure (Directive.version major, ← c.atWordEnd)
    | "TAG" => do
      let (handle, c) ← (c.skip (· == ' ')).tagHandle
      if c.peek != ' ' then throw .malformed
      let (uri, c) ← (c.skip (· == ' ')).tagUri
      pure (Directive.tagHandle handle uri, ← c.atWordEnd)
    | _ => pure (Directive.other, c.skip fun ch => !isLineEnd ch)
  return (d, ← c.skipLine)

end Cursor

end RoleSchema.Yaml
