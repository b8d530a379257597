import RoleSchema.Report.Console

/-!
# Texts with tags

A text for the console may set styles by tags in square brackets: `[bold]` begins a style, `[/bold]`
ends it, and `[/]` ends the one that was begun last. A backslash in front of a tag makes it plain
text. `Markup.rendered` gives the text without its tags, as it is shown; it fails where a tag ends
what was not begun.

* `unescaped_of_no_bracket`: a text without brackets stays as it is.
-/

namespace RoleSchema.Markup

/-- A part of a text with tags: characters, or a tag at a position. -/
inductive Part where
  | text (cs : List Char)
  | tag (position : Nat) (text : List Char)
  deriving DecidableEq, Repr

/-- Why a text with tags cannot be shown. -/
inductive Fault where
  /-- A tag ends a style that was not begun. -/
  | unmatched (tag : String) (position : Nat)
  /-- A tag ends the last style where there is none. -/
  | nothingOpen (position : Nat)
  deriving DecidableEq, Repr

/-- The wording of a fault. -/
def Fault.message : Fault → String
  | .unmatched tag position =>
    "closing tag '[" ++ tag ++ "]' at position " ++ toString position ++
      " doesn't match any open tag"
  | .nothingOpen position =>
    "closing tag '[/]' at position " ++ toString position ++ " has nothing to close"

/-! ## Parts -/

/-- Whether a tag can begin with a character. -/
def isTagStart (c : Char) : Bool := c.isLower || c == '#' || c == '/' || c == '@'

/-- The tag behind an opening bracket that has been read, and what follows its closing bracket. -/
def tagText? : List Char → Option (List Char × List Char)
  | [] => none
  | c :: rest =>
    let more := rest.takeWhile fun d => d != '[' && d != ']'
    match isTagStart c, rest.drop more.length with
    | true, ']' :: after => some (c :: more, after)
    | _, _ => none

/-- The part that characters are, given from the nearest on. -/
def flushed (plain : List Char) : List Part :=
  if plain.isEmpty then [] else [.text plain.reverse]

/-- The parts of a text from a position on; `plain` holds the characters since the last tag, from
the nearest on. The first argument bounds the number of characters to read; the length of the text
is enough. -/
def partsWithin : Nat → Nat → List Char → List Char → List Part
  | 0, _, plain, _ => flushed plain
  | n + 1, position, plain, cs =>
    let slashes := cs.takeWhile (· == '\\')
    let size := slashes.length
    match cs.drop size with
    | [] => flushed (slashes ++ plain)
    | c :: rest =>
      match (if c == '[' then tagText? rest else none) with
      | none => partsWithin n (position + size + 1) (c :: slashes ++ plain) rest
      | some (tag, after) =>
        let kept := slashes.take (size / 2)
        let part := if size % 2 = 0 then Part.tag (position + size) tag
          else Part.text ('[' :: tag ++ [']'])
        flushed plain ++ flushed kept ++
          part :: partsWithin n (position + size + tag.length + 2) [] after

/-- The parts of a text. -/
def parts (cs : List Char) : List Part := partsWithin (cs.length + 1) 0 [] cs

/-! ## Styles -/

/-- The attributes of styles in their order, each with the words for it. -/
def attributes : List (String × List String) :=
  [("bold", ["bold", "b"]), ("dim", ["dim", "d"]), ("italic", ["italic", "i"]),
    ("underline", ["underline", "u"]), ("blink", ["blink"]), ("blink2", ["blink2"]),
    ("reverse", ["reverse", "r"]), ("conceal", ["conceal", "c"]), ("strike", ["strike", "s"]),
    ("underline2", ["underline2", "uu"]), ("frame", ["frame"]), ("encircle", ["encircle"]),
    ("overline", ["overline", "o"])]

/-- The colours that are joined with attributes. -/
def colours : List String :=
  ["black", "red", "green", "yellow", "blue", "magenta", "cyan", "white"]

/-- The words between blanks. `word` holds the characters of the present one, from the nearest
on. -/
def wordsFrom (word : List Char) : List Char → List (List Char)
  | [] => if word.isEmpty then [] else [word.reverse]
  | c :: rest =>
    if Text.isBlank c then
      if word.isEmpty then wordsFrom [] rest else word.reverse :: wordsFrom [] rest
    else wordsFrom (c :: word) rest

/-- The one name of a style, whichever words it is written with. -/
def styleName (text : List Char) : String :=
  let small := Text.lowerChars (Text.trimChars text)
  let words := (wordsFrom [] small).map String.ofList
  if words.all fun w => colours.contains w || attributes.any fun a => a.2.contains w then
    let set := (attributes.filter fun a => words.any a.2.contains).map Prod.fst
    " ".intercalate (set ++ ((words.filter colours.contains).getLast?).toList)
  else String.ofList small

/-! ## Rendering -/

/-- The name of a tag: what stands before an equals sign. -/
def tagName (tag : List Char) : List Char := tag.takeWhile (· != '=')

/-- The styles that are left after a tag, those begun last coming first. -/
def applyTag (styles : List String) (position : Nat) (tag : List Char) :
    Except Fault (List String) :=
  match tagName tag with
  | '/' :: name =>
    if (Text.trimChars name).isEmpty then
      match styles with
      | [] => .error (.nothingOpen position)
      | _ :: rest => .ok rest
    else
      let style := styleName name
      if styles.contains style then .ok (styles.erase style)
      else .error (.unmatched (String.ofList tag) position)
  | name => .ok (styleName name :: styles)

/-- Plain characters, a backslash before a bracket left out. -/
def unescaped : List Char → List Char
  | '\\' :: '[' :: rest => '[' :: unescaped rest
  | c :: rest => c :: unescaped rest
  | [] => []

/-- The characters of parts, given the styles that have begun. -/
def characters (styles : List String) : List Part → Except Fault (List Char)
  | [] => .ok []
  | .text cs :: rest =>
    (characters styles rest).map (Terminal.visible (unescaped cs) ++ ·)
  | .tag position tag :: rest => do
    characters (← applyTag styles position tag) rest

/-- A text with tags as it is shown. -/
def rendered (s : String) : Except Fault String :=
  (characters [] (parts s.toList)).map Terminal.laidOut

/-- Whether a text with tags can be shown. -/
def fault? (s : String) : Option Fault :=
  match rendered s with
  | .ok _ => none
  | .error fault => some fault

theorem unescaped_of_no_bracket {cs : List Char} (h : '[' ∉ cs) : unescaped cs = cs := by
  induction cs with
  | nil => rfl
  | cons c rest ih =>
    have hr := ih fun m => h (by simp [m])
    unfold unescaped
    split
    · simp_all
    · simp_all
    · simp_all

end RoleSchema.Markup
