import RoleSchema.Data.Value
import RoleSchema.Yaml.Cursor

/-!
# Scalars

The text of a scalar is written plain, between quotation marks, or as a block of lines. Each reader
gives the text and the place after it. In all of them a single line end between lines of text is
folded into a space, except in literal blocks.
-/

namespace RoleSchema.Yaml

/-- The text of a scalar. -/
inductive Content where
  | text (s : String)
  /-- A text in which there are surrogates, as its code points. -/
  | points (ns : List Nat)
  deriving DecidableEq, Repr

namespace Content

/-- The text that code points are. -/
def ofPoints (ns : List Nat) : Content :=
  if ns.all fun n => n.isValidChar then .text (String.ofList (ns.map Char.ofNat)) else .points ns

/-- The characters of a text, with one in place of a surrogate that is none of those with a
meaning. -/
def chars : Content → List Char
  | .text s => s.toList
  | .points ns => ns.map fun n => if n.isValidChar then Char.ofNat n else '\ufffd'

/-- The text as a value. -/
def value : Content → Value
  | .text s => .text s
  | .points ns => .points ns

end Content

/-- A line end and those that follow it, folded: a space stands for a line feed alone. -/
def folded (first : List Char) (others : List Char) : List Char :=
  if first != ['\n'] then first ++ others
  else if others.isEmpty then [' ']
  else others

namespace Cursor

/-! ## Quoted scalars -/

/-- The line ends from here, the blanks before each of them left out. A mark between documents has
no place here. -/
def quotedBreaks : Nat → Cursor → Except Fault (List Char × Cursor)
  | 0, c => .ok ([], c)
  | fuel + 1, c =>
    if c.atSeparator then .error .malformed
    else
      let c := c.skip fun ch => ch == ' ' || ch == '\t'
      if isBreak c.peek then do
        let (first, c) := c.lineBreak
        let (others, c) ← quotedBreaks fuel c
        return (first ++ others, c)
      else .ok ([], c)

/-- The blanks and line ends from here, in the midst of a quoted scalar. -/
def quotedGap (c : Cursor) : Except Fault (List Char × Cursor) :=
  let (blanks, c) := c.span fun ch => ch == ' ' || ch == '\t'
  if c.atEnd then .error .malformed
  else if isBreak c.peek then do
    let (first, c) := c.lineBreak
    let (others, c) ← c.quotedBreaks c.size
    return (folded first others, c)
  else .ok (blanks, c)

/-- The character that a letter after a backslash stands for. -/
def escaped? (c : Char) : Option Char :=
  [('0', '\x00'), ('a', '\x07'), ('b', '\x08'), ('t', '\t'), ('\t', '\t'), ('n', '\n'),
    ('v', '\x0b'), ('f', '\x0c'), ('r', '\r'), ('e', '\x1b'), (' ', ' '), ('"', '"'),
    ('\\', '\\'), ('/', '/'), ('N', '\x85'), ('_', '\xa0'), ('L', '\u2028'),
    ('P', '\u2029')].lookup c

/-- How many hexadecimal digits follow a letter after a backslash. -/
def escapeWidth? (c : Char) : Option Nat := [('x', 2), ('u', 4), ('U', 8)].lookup c

/-- The number that hexadecimal digits spell, if all are. -/
def hexNumber? (cs : List Char) : Option Nat :=
  if cs.all fun c => (Text.hexDigit? c).isSome then some (Text.numberOf 16 cs) else none

/-- Code points that a number after a backslash can stand for end here; larger numbers are not even
tried beyond a second limit. -/
def codePoint (n : Nat) : Except Fault Nat :=
  if n < 0x110000 then .ok n
  else if n < 0x80000000 then .error (.badValue "chr() arg not in range(0x110000)")
  else .error (.tooLarge "Python int too large to convert to C int")

/-- The code points that a backslash and what follows it stand for, read after the backslash. -/
def escape (c : Cursor) : Except Fault (List Nat × Cursor) :=
  match escaped? c.peek, escapeWidth? c.peek with
  | some ch, _ => if c.atEnd then .error .malformed else .ok ([ch.toNat], c.next)
  | none, some width =>
    let digits := c.next.rest.take width
    if digits.length < width then .error .malformed
    else
      match hexNumber? digits with
      | none => .error .malformed
      | some n => (codePoint n).map fun n => ([n], c.advance (width + 1))
  | none, none =>
    if isBreak c.peek then
      let c := c.lineBreak.2
      (c.quotedBreaks c.size).map fun r => (r.1.map Char.toNat, r.2)
    else .error .malformed

/-- The code points from here to the next blank, line end or closing quotation mark. -/
def quotedRun (quote : Char) : Nat → Cursor → Except Fault (List Nat × Cursor)
  | 0, c => .ok ([], c)
  | fuel + 1, c =>
    let ch := c.peek
    let piece : Except Fault (List Nat × Cursor) :=
      if c.atEnd || isGap ch then .ok ([], c)
      else if ch == quote then
        if ch == '\'' && c.peekAt 1 == '\'' then .ok ([ch.toNat], c.advance 2) else .ok ([], c)
      else if ch == '\\' && quote == '"' then c.next.escape
      else .ok ([ch.toNat], c.next)
    do
      let (cs, d) ← piece
      if d.index = c.index then return ([], c)
      let (others, d) ← quotedRun quote fuel d
      return (cs ++ others, d)

/-- The rest of a quoted scalar. -/
def quotedRest (quote : Char) : Nat → Cursor → Except Fault (List Nat × Cursor)
  | 0, _ => .error .malformed
  | fuel + 1, c => do
    let (run, c) ← c.quotedRun quote c.size
    if c.peek == quote then return (run, c.next)
    let (gap, c) ← c.quotedGap
    let (others, c) ← quotedRest quote fuel c
    return (run ++ gap.map Char.toNat ++ others, c)

/-- The scalar between quotation marks that begins here. -/
def quoted (c : Cursor) : Except Fault (Content × Cursor) :=
  (quotedRest c.peek c.size c.next).map fun r => (.ofPoints r.1, r.2)

/-! ## Plain scalars -/

/-- Whether a plain scalar stops before a character. -/
def stopsPlain (inFlow : Bool) (c : Char) (rest : List Char) : Bool :=
  let after := rest.headD endMark
  isGap c || (c == ':' && (isGap after || (inFlow && ",[]\x7b\x7d".contains after))) ||
    (inFlow && ",?[]\x7b\x7d".contains c)

/-- The characters of a plain scalar from the beginning of a text. -/
def plainRun (inFlow : Bool) : List Char → List Char
  | [] => []
  | c :: rest => if stopsPlain inFlow c rest then [] else c :: plainRun inFlow rest

/-- The line ends from here, the spaces around them left out; `none` where a mark between documents
follows one. -/
def plainBreaks : Nat → Cursor → Option (List Char) × Cursor
  | 0, c => (some [], c)
  | fuel + 1, c =>
    if c.peek == ' ' then plainBreaks fuel c.next
    else if isBreak c.peek then
      let (first, c) := c.lineBreak
      if c.atSeparator then (none, c)
      else
        let (others, c) := plainBreaks fuel c
        (others.map (first ++ ·), c)
    else (some [], c)

/-- What stands between two runs of a plain scalar. -/
structure PlainGap where
  /-- The text it stands for; `none` where a mark between documents follows. -/
  text : Option (List Char)
  hasBreak : Bool
  after : Cursor

/-- The gap from here in a plain scalar. -/
def plainGap (c : Cursor) : PlainGap :=
  let (spaces, c) := c.span (· == ' ')
  if isBreak c.peek then
    let (first, c) := c.lineBreak
    if c.atSeparator then ⟨none, true, c⟩
    else
      let (others, c) := c.plainBreaks c.size
      ⟨others.map (folded first), true, c⟩
  else ⟨some spaces, false, c⟩

/-- A plain scalar. -/
structure Plain where
  text : List Char
  /-- Whether a line end follows it. -/
  endsLine : Bool
  after : Cursor

/-- The rest of a plain scalar after some gap. Outside of brackets it is indented by `indent`. -/
def plainRest (inFlow : Bool) (indent : Nat) : Nat → List Char → Bool → Cursor → Plain
  | 0, _, hasBreak, c => ⟨[], hasBreak, c⟩
  | fuel + 1, gap, hasBreak, c =>
    let run := if c.peek == '#' then [] else plainRun inFlow c.rest
    if run.isEmpty then ⟨[], hasBreak, c⟩
    else
      let g := (c.advance run.length).plainGap
      let stop : Plain := ⟨gap ++ run, g.hasBreak, g.after⟩
      match g.text with
      | none => stop
      | some [] => stop
      | some next =>
        if g.after.peek == '#' || (!inFlow && g.after.column < indent) then stop
        else
          let others := plainRest inFlow indent fuel next g.hasBreak g.after
          { others with text := gap ++ run ++ others.text }

/-- The plain scalar that begins here. -/
def plain (c : Cursor) (inFlow : Bool) (indent : Nat) : Plain :=
  plainRest inFlow indent c.size [] false c

/-! ## Block scalars -/

/-- What becomes of the line ends at the end of a block. -/
inductive Chomping where
  | clip
  | strip
  | keep
  deriving DecidableEq, Repr

/-- The chomping that a mark stands for. -/
def chomping? (c : Char) : Option Chomping :=
  if c == '+' then some .keep else if c == '-' then some .strip else none

/-- The head of a block: its chomping and the depth of its indentation, in either order. -/
def blockHead (c : Cursor) : Except Fault (Chomping × Option Nat × Cursor) := do
  let depth? (c : Cursor) : Except Fault (Option Nat × Cursor) :=
    if c.peek == '0' then .error .malformed
    else if c.peek.isDigit then .ok (some (c.peek.toNat - 48), c.next)
    else .ok (none, c)
  let (chomping, depth, c) ← match chomping? c.peek with
    | some chomping => do
      let (depth, c) ← depth? c.next
      pure (chomping, depth, c)
    | none => do
      let (depth, c) ← depth? c
      match depth, chomping? c.peek with
      | some n, some chomping => pure (chomping, some n, c.next)
      | depth, _ => pure (Chomping.clip, depth, c)
  if isLineEnd c.peek || c.peek == ' ' then return (chomping, depth, ← c.skipLine)
  throw .malformed

/-- The line ends from here, the spaces around them left out, and the largest column reached by
them. -/
def blockIndentation : Nat → Nat → Cursor → List Char × Nat × Cursor
  | 0, deepest, c => ([], deepest, c)
  | fuel + 1, deepest, c =>
    if c.peek == ' ' then
      let c := c.next
      blockIndentation fuel (max deepest c.column) c
    else if isBreak c.peek then
      let (first, c) := c.lineBreak
      let (others, deepest, c) := blockIndentation fuel deepest c
      (first ++ others, deepest, c)
    else ([], deepest, c)

/-- The place after at most the spaces of an indentation. -/
def indented (indent : Nat) (c : Cursor) : Cursor :=
  c.advance (min (indent - c.column) (c.rest.takeWhile (· == ' ')).length)

/-- The line ends from here, up to an indentation left out before each. -/
def blockBreaks (indent : Nat) : Nat → Cursor → List Char × Cursor
  | 0, c => ([], c)
  | fuel + 1, c =>
    let c := c.indented indent
    if isBreak c.peek then
      let (first, c) := c.lineBreak
      let (others, c) := blockBreaks indent fuel c
      (first ++ others, c)
    else ([], c)

/-- The lines of a block. `breaks` are the line ends before the first of them. -/
def blockLines (isFolded : Bool) (chomping : Chomping) (indent : Nat) :
    Nat → List Char → Cursor → List Char × Cursor
  | 0, _, c => ([], c)
  | fuel + 1, breaks, c =>
    let isText (ch : Char) : Bool := ch != ' ' && ch != '\t'
    let isPlain := isText c.peek
    let (line, c) := c.span fun ch => !isLineEnd ch
    let (first, c) := c.lineBreak
    let (others, c) := c.blockBreaks indent c.size
    if c.column = indent && !c.atEnd then
      let join :=
        if isFolded && first == ['\n'] && isPlain && isText c.peek then
          if others.isEmpty then [' '] else []
        else first
      let (text, c) := blockLines isFolded chomping indent fuel others c
      (breaks ++ line ++ join ++ text, c)
    else
      let tail := match chomping with
        | .strip => []
        | .clip => first
        | .keep => first ++ others
      (breaks ++ line ++ tail, c)

/-- The block scalar that begins here, in a collection whose indentation is `outer`. -/
def block (c : Cursor) (outer : Int) : Except Fault (List Char × Cursor) := do
  let isFolded := c.peek == '>'
  let (chomping, depth, c) ← c.next.blockHead
  let least := (max (outer + 1) 1).toNat
  let (breaks, indent, c) := match depth with
    | none =>
      let (breaks, deepest, c) := c.blockIndentation c.size 0
      (breaks, max least deepest, c)
    | some n =>
      let indent := least + n - 1
      let (breaks, c) := c.blockBreaks indent c.size
      (breaks, indent, c)
  if c.column = indent && !c.atEnd then
    return blockLines isFolded chomping indent c.size breaks c
  return (if chomping = .keep then breaks else [], c)

end Cursor

end RoleSchema.Yaml
