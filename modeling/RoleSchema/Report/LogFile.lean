import RoleSchema.Data.Clock
import RoleSchema.Files.Store
import RoleSchema.Settings.Quantity
import RoleSchema.Text.Blank
import RoleSchema.Text.Template

/-!
# Log files

The path of a log file is a template in which the field `time` stands for the time at which the file
is opened. Before it is filled, its form, the ages at which files are replaced and removed, and the
compression of files that are put aside are checked, in this order. `LogFile.opened` opens a file
with the directories that it is in.
-/

namespace RoleSchema

open Files (Path Store FileFault)
open Text (Field Template TemplateFault)

/-- Why the path of a log file names no file. -/
inductive LogNameFault where
  | template (fault : TemplateFault)
  /-- A field without a name, or with a number in place of one. -/
  | positional
  /-- A number that is too large to be one of a field. -/
  | tooManyDigits
  | unknown (name : String)
  /-- A part of the time is asked for by its name. -/
  | attribute (name : String)
  /-- A part of the time is asked for by an index. -/
  | index
  /-- A part of the time is asked for without a name or an index. -/
  | emptyPart
  | unclosedIndex
  | conversion (letter : Char)
  /-- A format inside the format of a field that is in a format itself. -/
  | nesting
  deriving DecidableEq, Repr

/-- The wording of a fault. -/
def LogNameFault.message : LogNameFault → String
  | .template fault => fault.message
  | .positional => "Format string contains positional fields"
  | .tooManyDigits => "Too many decimal digits in format string"
  | .unknown name => Text.quoted name
  | .attribute name =>
    "'FileDateFormatter' object has no attribute " ++ Text.quoted name
  | .index => "'FileDateFormatter' object is not subscriptable"
  | .emptyPart => "Empty attribute in format string"
  | .unclosedIndex => "Missing ']' in format string"
  | .conversion c =>
    "Unknown conversion specifier " ++
      (if 32 < c.toNat && c.toNat < 127 then toString c
        else "\\x" ++ String.ofList (Nat.toDigits 16 c.toNat))
  | .nesting => "Max string recursion exceeded"

/-- What a log file is asked to be. -/
structure LogFile where
  /-- The template of the path. -/
  path : Path
  rotation : String := "10 MB"
  retention : String := "30 days"
  compression : String := "gz"
  deriving DecidableEq, Repr

/-- Why a log file cannot be opened. -/
inductive LogFileFault where
  | naming (fault : LogNameFault)
  | span (fault : Settings.SpanFault)
  | compression (name : String)
  | storing (fault : FileFault)
  deriving DecidableEq, Repr

/-- The wording of a fault. -/
def LogFileFault.message : LogFileFault → String
  | .naming fault => fault.message
  | .span fault => fault.message
  | .compression name => "Invalid compression format: '" ++ name ++ "'"
  | .storing fault => fault.message

namespace LogFile

/-! ## Names -/

/-- A moment as file names hold it. -/
def stamp (now : Moment) : List Char :=
  (now.day.text ++ "_" ++
    "-".intercalate ([now.hour, now.minute, now.second].map (padded 2)) ++ "_" ++
    padded 6 now.microsecond).toList

/-- The largest number that a field can have in place of a name. -/
def maxNumber : Nat := 9223372036854775807

/-- Whether a name is a number; `n` is the number so far. -/
def isNumber (n : Nat) : List Char → Except LogNameFault Bool
  | [] => .ok true
  | c :: rest =>
    match Text.decimalValue? c with
    | none => .ok false
    | some d => if n * 10 + d > maxNumber then .error .tooManyDigits else isNumber (n * 10 + d) rest

/-- The time has no parts that can be asked for. -/
def checkParts : List Char → Except LogNameFault Unit
  | [] => .ok ()
  | '.' :: rest =>
    let name := rest.takeWhile fun c => c != '.' && c != '['
    .error (if name.isEmpty then .emptyPart else .attribute (String.ofList name))
  | _ :: rest => do
    let index := rest.takeWhile (· != ']')
    if index.length = rest.length then throw .unclosedIndex
    let _ ← isNumber 0 index
    throw (if index.isEmpty then .emptyPart else .index)

/-- The only name of a field is that of the time. -/
def checkName (name : List Char) : Except LogNameFault Unit := do
  let first := name.takeWhile fun c => c != '.' && c != '['
  if ← isNumber 0 first then throw .positional
  if first ≠ "time".toList then throw (.unknown (String.ofList first))
  checkParts (name.drop first.length)

/-- A conversion leaves the time as it is, if there is one of its letter. -/
def checkConversion : Option Char → Except LogNameFault Unit
  | none => .ok ()
  | some c => if ['r', 's', 'a', '\x00'].contains c then .ok () else .error (.conversion c)

/-- The text of a field at a time. Its format may hold fields, to some depth. -/
def fieldText (now : Moment) : Nat → Field → Except LogNameFault (List Char)
  | depth, f => do
    checkName f.name
    checkConversion f.conversion
    let format ←
      if f.format.contains '{' then
        match depth with
        | 0 => throw .nesting
        | depth + 1 => (Template.ofChars f.format).fill (fieldText now depth) .template
      else pure f.format
    return if format.isEmpty then stamp now else now.formatChars format

/-- A path without the parts that lead back. -/
def straight (p : Path) : Path :=
  { p with
    parts := (p.parts.foldl (fun above part =>
      if part = ".." then above.drop 1 else part :: above) []).reverse }

/-! ## Opening -/

/-- The compressions for log files that are put aside. -/
def compressions : List String :=
  ["gz", "bz2", "xz", "lzma", "tar", "tar.gz", "tar.bz2", "tar.xz", "zip"]

/-- The name of the file to open, after all else that is asked for has been checked. -/
def name (f : LogFile) (now : Moment) : Except LogFileFault Path := do
  let template := Template.ofChars f.path.text.toList
  match template.fault with
  | some fault => throw (.naming (.template fault))
  | none => pure ()
  (Settings.checkSpan f.rotation).mapError .span
  (Settings.checkSpan f.retention).mapError .span
  let compression :=
    String.ofList ((Text.trimChars f.compression.toList).dropWhile (· = '.'))
  if !compressions.contains compression then throw (.compression compression)
  let text ← (template.fill (fieldText now 1) .template).mapError .naming
  return Path.ofText (String.ofList text)

/-- The place of a path, in full and straight. -/
def inFull (store : Store) (p : Path) : Path :=
  straight (Path.join ⟨.absolute, store.here⟩ p)

/-- Opens a log file, with the directories that it is in: those of its template, and those of its
name. -/
def opened (f : LogFile) (now : Moment) (store : Store) : Store × Except LogFileFault Path :=
  match store.makeDirectories f.path.parent with
  | .error fault => (store, .error (.storing fault))
  | .ok store =>
    match f.name now with
    | .error fault => (store, .error fault)
    | .ok path =>
      let path := inFull store path
      match store.makeDirectories path.parent with
      | .error fault => (store, .error (.storing fault))
      | .ok store =>
        match store.append path [] with
        | .error fault => (store, .error (.storing fault))
        | .ok store => (store, .ok path)

end LogFile

end RoleSchema
