import RoleSchema.Yaml.Token

/-!
# Layout

The layout of a text says where its collections begin and end. A collection in block form is as long
as its lines are indented; a key is only known to be one when the colon after it is found, on the
same line and not too far away. `Layout.ready` reads on as far as is needed to tell what the next
token is, and no further: what is wrong behind it does not count yet.
-/

namespace RoleSchema.Yaml

/-- A place at which a key may have begun. -/
structure PossibleKey where
  /-- The number of tokens before it. -/
  position : Nat
  /-- Whether nothing but a key can stand there. -/
  isRequired : Bool
  start : Cursor
  deriving Repr

/-- How far a text has been read. -/
structure Layout where
  cursor : Cursor
  /-- What comes of reading beyond the end of the text, if it should go on there. -/
  torn : Option Fault := none
  /-- The tokens that have been read and not yet taken, in order. -/
  queue : List Token := []
  /-- The number of tokens that have been taken. -/
  taken : Nat := 0
  /-- Whether the end of the text has been read. -/
  isDone : Bool := false
  /-- How many brackets are open. -/
  depth : Nat := 0
  /-- The indentation of the innermost collection in block form, and those of the outer ones. -/
  indent : Int := -1
  outer : List Int := []
  /-- Whether a key may begin here. -/
  allowsKey : Bool := true
  /-- The possible keys, at most one for each number of open brackets. -/
  keys : List (Nat × PossibleKey) := []
  deriving Repr

namespace Layout

/-- A step of reading. -/
abbrev Step := Layout → Except Fault Layout

/-- The number of tokens so far. -/
def count (l : Layout) : Nat := l.taken + l.queue.length

/-- Adds a token. -/
def push (t : Token) (l : Layout) : Layout := { l with queue := l.queue ++ [t] }

/-- Adds a token after some others; as many have not been taken yet. -/
def insert (position : Nat) (t : Token) (l : Layout) : Layout :=
  let place := position - l.taken
  { l with queue := l.queue.take place ++ t :: l.queue.drop place }

/-- Goes on by some characters. -/
def forward (n : Nat) (l : Layout) : Layout := { l with cursor := l.cursor.advance n }

/-- Goes on to the next token. A line end allows a key, except between brackets. -/
def toNext : Nat → Layout → Layout
  | 0, l => l
  | fuel + 1, l =>
    let c := (l.cursor.skip (· == ' ')).skipRemark
    if isBreak c.peek then
      toNext fuel { l with cursor := c.lineBreak.2, allowsKey := l.allowsKey || l.depth == 0 }
    else { l with cursor := c }

/-- Forgets the possible keys that are on another line or too far away. -/
def dropStale : Step := fun l =>
  let isStale (k : PossibleKey) : Bool :=
    k.start.line != l.cursor.line || l.cursor.index - k.start.index > 1024
  let (stale, fresh) := l.keys.partition fun k => isStale k.2
  if stale.any fun k => k.2.isRequired then .error .malformed
  else .ok { l with keys := fresh }

/-- Forgets the possible key among the open brackets. -/
def dropKey : Step := fun l =>
  if l.keys.any fun k => k.1 == l.depth && k.2.isRequired then .error .malformed
  else .ok { l with keys := l.keys.filter fun k => k.1 != l.depth }

/-- Notes that a key may begin here. -/
def noteKey : Step := fun l =>
  if l.allowsKey then do
    let isRequired := l.depth == 0 && l.indent == l.cursor.column
    let l ← l.dropKey
    return { l with keys := (l.depth, ⟨l.count, isRequired, l.cursor⟩) :: l.keys }
  else .ok l

/-- Ends the collections that are indented further than a column; `outer` are the indentations to go
back to. -/
def unwindTo (column : Int) (l : Layout) : List Int → Layout
  | [] => l
  | i :: outer =>
    if l.indent > column then
      unwindTo column { l.push .collectionEnd with indent := i, outer } outer
    else l

/-- Ends the collections that are indented further than a column. -/
def unwound (column : Int) (l : Layout) : Layout :=
  if l.depth > 0 then l else l.unwindTo column l.outer

/-- Begins a collection at a column, if it is indented further. The token that tells of it comes
after `position` others. -/
def indentTo (column : Nat) (t : Token) (position : Nat) (l : Layout) : Layout :=
  if l.indent < column then
    { l.insert position t with outer := l.indent :: l.outer, indent := column }
  else l

/-! ## Tokens by their first characters -/

/-- A mark between documents. -/
def separator (t : Token) : Step := fun l => do
  let l ← (l.unwound (-1)).dropKey
  return { (l.forward 3).push t with allowsKey := false }

/-- An opening bracket. -/
def openBracket (t : Token) : Step := fun l => do
  let l ← l.noteKey
  return { (l.forward 1).push t with depth := l.depth + 1, allowsKey := true }

/-- A closing bracket. -/
def closeBracket (t : Token) : Step := fun l => do
  let l ← l.dropKey
  return { (l.forward 1).push t with depth := l.depth - 1, allowsKey := false }

/-- A comma between brackets. -/
def comma : Step := fun l => do
  let l ← l.dropKey
  return { (l.forward 1).push .flowEntry with allowsKey := true }

/-- A dash before an item. -/
def dash : Step := fun l => do
  if l.depth == 0 && !l.allowsKey then throw .malformed
  let l := if l.depth == 0 then l.indentTo l.cursor.column .sequenceStart l.count else l
  let l ← l.dropKey
  return { (l.forward 1).push .entry with allowsKey := true }

/-- A question mark before a key. -/
def question : Step := fun l => do
  if l.depth == 0 && !l.allowsKey then throw .malformed
  let l := if l.depth == 0 then l.indentTo l.cursor.column .mappingStart l.count else l
  let l ← l.dropKey
  return { (l.forward 1).push .key with allowsKey := l.depth == 0 }

/-- A colon before a value. What was noted as a possible key is one. -/
def colon : Step := fun l =>
  match l.keys.lookup l.depth with
  | some k =>
    let l := { l.insert k.position .key with keys := l.keys.filter fun k => k.1 != l.depth }
    let l := if l.depth == 0 then l.indentTo k.start.column .mappingStart k.position else l
    .ok { (l.forward 1).push .value with allowsKey := false }
  | none => do
    if l.depth == 0 && !l.allowsKey then throw .malformed
    let l := if l.depth == 0 then l.indentTo l.cursor.column .mappingStart l.count else l
    let l ← l.dropKey
    return { (l.forward 1).push .value with allowsKey := l.depth == 0 }

/-- A token with which a key may begin. -/
def keyLike (read : Cursor → Except Fault (Token × Cursor)) : Step := fun l => do
  let l ← l.noteKey
  let (t, c) ← read l.cursor
  return { l.push t with allowsKey := false, cursor := c }

/-- A plain scalar. -/
def plain : Step := fun l => do
  let l ← l.noteKey
  let p := l.cursor.plain (l.depth > 0) (l.indent + 1).toNat
  return { l.push (.scalar (.text (String.ofList p.text)) true) with
    allowsKey := p.endsLine
    cursor := p.after }

/-- A block scalar. -/
def block : Step := fun l => do
  let l ← l.dropKey
  let (text, c) ← l.cursor.block l.indent
  return { l.push (.scalar (.text (String.ofList text)) false) with allowsKey := true, cursor := c }

/-- A directive. -/
def directive : Step := fun l => do
  let l ← (l.unwound (-1)).dropKey
  let (d, c) ← l.cursor.directive
  return { l.push (.directive d) with allowsKey := false, cursor := c }

/-- Whether a plain scalar begins with a character. -/
def beginsPlain (inFlow : Bool) (c after : Char) : Bool :=
  !(isGap c || "-?:,[]\x7b\x7d#&*!|>'\"%@\x60".contains c) ||
    (!isGap after && (c == '-' || (!inFlow && (c == '?' || c == ':'))))

/-- Reads the next token. -/
def token : Step := fun l =>
  let c := l.cursor
  let inFlow := l.depth > 0
  let apart := isGap (c.peekAt 1)
  if c.peek == '%' && c.column == 0 then l.directive
  else if c.column == 0 && c.atMark '-' then l.separator .documentStart
  else if c.column == 0 && c.atMark '.' then l.separator .documentEnd
  else
    match c.peek with
    | '[' => l.openBracket .flowSequenceStart
    | '\x7b' => l.openBracket .flowMappingStart
    | ']' => l.closeBracket .flowSequenceEnd
    | '\x7d' => l.closeBracket .flowMappingEnd
    | ',' => l.comma
    | '*' => l.keyLike fun c => c.next.anchorName.map fun r => (.alias r.1, r.2)
    | '&' => l.keyLike fun c => c.next.anchorName.map fun r => (.anchor r.1, r.2)
    | '!' => l.keyLike Cursor.tag
    | '\'' | '"' => l.keyLike fun c => c.quoted.map fun r => (.scalar r.1 false, r.2)
    | ch =>
      if ch == '-' && apart then l.dash
      else if ch == '?' && (inFlow || apart) then l.question
      else if ch == ':' && (inFlow || apart) then l.colon
      else if (ch == '|' || ch == '>') && !inFlow then l.block
      else if beginsPlain inFlow ch (c.peekAt 1) then l.plain
      else .error .malformed

/-- The reading up to here, unless it has come to where the text breaks off. -/
def whole : Step := fun l =>
  match l.torn with
  | some fault => if l.cursor.atEnd then .error fault else .ok l
  | none => .ok l

/-- Reads on by one token, and the ends of collections before it. -/
def fetch : Step := fun l => do
  let l ← (← (l.toNext l.cursor.size).whole).dropStale
  let l := l.unwound l.cursor.column
  if l.cursor.atEnd then
    let l ← (l.unwound (-1)).dropKey
    return { l with isDone := true, keys := [] }
  (← l.token).whole

/-- Reads on until there is a token before which no other one can still come. Every token has some
text, so the length of the text bounds their number. -/
def readyWithin : Nat → Step
  | 0 => fun l => .ok l
  | fuel + 1 => fun l =>
    if l.isDone then .ok l
    else if l.queue.isEmpty then do readyWithin fuel (← l.fetch)
    else do
      let l ← l.dropStale
      if l.keys.any fun k => k.2.position == l.taken then readyWithin fuel (← l.fetch)
      else return l

/-- Reads on until the next token is known. -/
def ready : Step := fun l => l.readyWithin l.cursor.size

/-- Takes the next token. -/
def take (l : Layout) : Layout := { l with queue := l.queue.drop 1, taken := l.taken + 1 }

end Layout

end RoleSchema.Yaml
