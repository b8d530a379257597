import RoleSchema.Text.Quoted

/-!
# Templates with fields in braces

A template is a text in which a field between braces stands for a value, and a doubled brace for
one brace. `Template.ofChars` reads a template into its pieces up to the first thing wrong with it;
`fill` puts values in place of the fields, from left to right, and reports the first fault it meets.
`placeholders` lists what stands between braces, without regard to doubling.
-/

namespace RoleSchema.Text

/-- What can be wrong with a template. -/
inductive TemplateFault where
  /-- An opening brace at the very end. -/
  | openingAtEnd
  /-- A closing brace that is not doubled and closes nothing. -/
  | loneClosing
  /-- A field whose closing brace is missing. -/
  | unclosed
  /-- An opening brace inside the name of a field. -/
  | openingInName
  /-- The end of the text where a conversion mark should be followed by its letter. -/
  | conversionAtEnd
  /-- A conversion letter that is followed by neither a closing brace nor a colon. -/
  | conversionUnmarked
  /-- A format after a colon whose closing brace is missing. -/
  | formatUnclosed
  /-- A field without a name. -/
  | unnamed
  /-- A field for which there is no value. -/
  | unknown (name : String)
  deriving DecidableEq, Repr

/-- The wording of a fault. -/
def TemplateFault.message : TemplateFault → String
  | .openingAtEnd => "Single '\x7b' encountered in format string"
  | .loneClosing => "Single '\x7d' encountered in format string"
  | .unclosed => "expected '\x7d' before end of string"
  | .openingInName => "unexpected '\x7b' in field name"
  | .conversionAtEnd => "end of string while looking for conversion specifier"
  | .conversionUnmarked => "expected ':' after conversion specifier"
  | .formatUnclosed => "unmatched '\x7b' in format spec"
  | .unnamed => "Replacement index 0 out of range for positional args tuple"
  | .unknown name => quoted name

/-! ## Reading -/

/-- What stands between two braces: a name, perhaps with a conversion letter and a format. -/
structure Field where
  name : List Char := []
  conversion : Option Char := none
  format : List Char := []
  deriving DecidableEq, Repr

/-- A piece of a template. -/
inductive Piece where
  | char (c : Char)
  | field (f : Field)
  deriving DecidableEq, Repr

/-- A template that has been read, up to the first thing wrong with it. -/
structure Template where
  pieces : List Piece := []
  fault : Option TemplateFault := none
  deriving DecidableEq, Repr

namespace Field

/-- The field with a character in front of its name. -/
def withChar (c : Char) (f : Field) : Field := { f with name := c :: f.name }

/-- Reads a format up to the brace that closes its field, `depth` others being open; gives it with
what follows that brace. -/
def readFormat : Nat → List Char → Except TemplateFault (List Char × List Char)
  | _, [] => .error .formatUnclosed
  | depth, c :: rest =>
    if c = '}' && depth = 0 then .ok ([], rest)
    else
      let depth := if c = '{' then depth + 1 else if c = '}' then depth - 1 else depth
      (readFormat depth rest).map fun r => (c :: r.1, r.2)

/-- Reads what follows the mark of a conversion. -/
def readConversion : List Char → Except TemplateFault (Field × List Char)
  | [] => .error .conversionAtEnd
  | _ :: [] => .error .formatUnclosed
  | c :: '}' :: rest => .ok ({ conversion := some c }, rest)
  | c :: ':' :: rest =>
    (readFormat 0 rest).map fun r => ({ conversion := some c, format := r.1 }, r.2)
  | _ :: _ :: _ => .error .conversionUnmarked

/-- Reads a field after its opening brace; gives it with what follows its closing brace. An index in
brackets may hold any character. -/
def read (indexed : Bool) : List Char → Except TemplateFault (Field × List Char)
  | [] => .error .unclosed
  | c :: rest =>
    if indexed then (read (c != ']') rest).map fun r => (r.1.withChar c, r.2)
    else if c = '}' then .ok ({}, rest)
    else if c = '{' then .error .openingInName
    else if c = ':' then (readFormat 0 rest).map fun r => ({ format := r.1 }, r.2)
    else if c = '!' then readConversion rest
    else (read (c == '[') rest).map fun r => (r.1.withChar c, r.2)

end Field

namespace Template

/-- The template with a piece in front. -/
def after (piece : Piece) (t : Template) : Template := { t with pieces := piece :: t.pieces }

/-- Reads a template. The first argument bounds the number of characters to read; the length of the
text is enough. -/
def readWithin : Nat → List Char → Template
  | _, [] => {}
  | 0, _ :: _ => {}
  | n + 1, c :: rest =>
    if c = '{' then
      match rest with
      | [] => { fault := some .openingAtEnd }
      | '{' :: rest => (readWithin n rest).after (.char '{')
      | rest =>
        match Field.read false rest with
        | .error fault => { fault := some fault }
        | .ok (f, rest) => (readWithin n rest).after (.field f)
    else if c = '}' then
      match rest with
      | '}' :: rest => (readWithin n rest).after (.char '}')
      | _ => { fault := some .loneClosing }
    else (readWithin n rest).after (.char c)

/-- The template that a text is. -/
def ofChars (cs : List Char) : Template := readWithin cs.length cs

/-! ## Filling -/

/-- The text of pieces, of which the fields are filled by `value`. -/
def fillPieces {ε : Type} (value : Field → Except ε (List Char)) :
    List Piece → Except ε (List Char)
  | [] => .ok []
  | .char c :: rest => (fillPieces value rest).map (c :: ·)
  | .field f :: rest => do
    let text ← value f
    let others ← fillPieces value rest
    return text ++ others

/-- The text of a template: its pieces are filled before what is wrong behind them is met. -/
def fill {ε : Type} (t : Template) (value : Field → Except ε (List Char))
    (wrong : TemplateFault → ε) : Except ε (List Char) := do
  let text ← fillPieces value t.pieces
  match t.fault with
  | none => return text
  | some fault => throw (wrong fault)

end Template

/-- The value that a field stands for, which is a name only. -/
def valueOf (values : List (String × String)) (f : Field) : Except TemplateFault (List Char) :=
  if f.name.isEmpty then .error .unnamed
  else
    match values.lookup (String.ofList f.name), f.conversion, f.format with
    | some v, none, [] => .ok v.toList
    | _, _, _ => .error (.unknown (String.ofList f.name))

/-- The characters a template stands for. -/
def fillChars (values : List (String × String)) (cs : List Char) :
    Except TemplateFault (List Char) :=
  (Template.ofChars cs).fill (valueOf values) id

/-- The text a template stands for. -/
def fill (values : List (String × String)) (template : String) : Except TemplateFault String :=
  (fillChars values template.toList).map String.ofList

/-! ## Placeholders -/

/-- What stands between each opening brace and the next closing one, from left to right. An opening
brace directly before a closing one opens a placeholder only if `empty` allows it. `inside` holds
the characters since the opening brace, from the nearest on. -/
def placeholdersFrom (empty : Bool) (inside : Option (List Char)) : List Char → List (List Char)
  | [] => []
  | c :: rest =>
    match inside with
    | none => placeholdersFrom empty (if c = '{' then some [] else none) rest
    | some [] =>
      if c = '}' then
        if empty then [] :: placeholdersFrom empty none rest else placeholdersFrom empty none rest
      else placeholdersFrom empty (some [c]) rest
    | some (d :: ds) =>
      if c = '}' then (d :: ds).reverse :: placeholdersFrom empty none rest
      else placeholdersFrom empty (some (c :: d :: ds)) rest

/-- The placeholders of a template, doubled braces being read like single ones. -/
def placeholders (empty : Bool) (template : String) : List String :=
  (placeholdersFrom empty none template.toList).map String.ofList

theorem fillPieces_chars {ε : Type} (value : Field → Except ε (List Char)) (cs : List Char) :
    Template.fillPieces value (cs.map .char) = .ok cs := by
  induction cs with
  | nil => rfl
  | cons c rest ih => simp [Template.fillPieces, ih, Except.map]

end RoleSchema.Text
