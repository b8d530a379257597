import RoleSchema.Data.Value
import RoleSchema.Settings.Basic
import RoleSchema.Settings.Quantity
import RoleSchema.Text.Blank
import RoleSchema.Text.Case
import RoleSchema.Text.Numeral

/-!
# Checked settings

Settings are read from the entries of a mapping, field by field in a fixed order. What is not bound
keeps its default and unknown keys are passed over; every field that is bound to an improper value
is reported with its place. The output directory is turned into a path before anything is checked:
a value that is no text ends the reading at once.

* `Verdict`: a value, the issues found, or the end of the reading.
-/

namespace RoleSchema

open Files (Path)

/-- A rule that a text breaks. -/
inductive Rule where
  | pathPlaceholders
  | rotation
  | retention
  | consoleFormat
  | logLevel
  | conceptPlaceholder
  | filenamePlaceholders
  | encoding (name : String)
  /-- The name of an encoding has a null character. -/
  | nullCharacter
  | emptyNamespace
  deriving DecidableEq, Repr

/-- The wording of a broken rule. -/
def Rule.message : Rule → String
  | .pathPlaceholders => "Invalid placeholders in path"
  | .rotation => "rotation must be in format like '10 MB', '1 GB', or '1 day'"
  | .retention => "retention must be in format like '30 days', '1 week', '6 months'"
  | .consoleFormat => "format must be 'simple' or 'detailed'"
  | .logLevel => "log_level must be one of ['DEBUG', 'INFO', 'WARNING', 'ERROR', 'CRITICAL']"
  | .conceptPlaceholder => "filename_template must contain the \x7bconcept\x7d placeholder"
  | .filenamePlaceholders => "Invalid placeholders in filename_template"
  | .encoding name => "Unknown encoding: " ++ name
  | .nullCharacter => "embedded null character"
  | .emptyNamespace => "namespace URI cannot be empty"

/-- What is wrong with the value of a field. -/
inductive Problem where
  | notText
  /-- Bytes or code points that are no characters. -/
  | unreadableText
  | notBoolean
  /-- A number or a text that stands for no truth value. -/
  | unreadableBoolean
  /-- Not the mapping of a structure. -/
  | notMapping (structureName : String)
  | broken (rule : Rule)
  deriving DecidableEq, Repr

namespace Problem

/-- The sort of a problem. -/
def sort : Problem → String
  | .notText => "string_type"
  | .unreadableText => "string_unicode"
  | .notBoolean => "bool_type"
  | .unreadableBoolean => "bool_parsing"
  | .notMapping _ => "model_type"
  | .broken _ => "value_error"

/-- The wording of a problem. -/
def message : Problem → String
  | .notText => "Input should be a valid string"
  | .unreadableText =>
    "Input should be a valid string, unable to parse raw data as a unicode string"
  | .notBoolean => "Input should be a valid boolean"
  | .unreadableBoolean => "Input should be a valid boolean, unable to interpret input"
  | .notMapping name => "Input should be a valid dictionary or instance of " ++ name
  | .broken rule => "Value error, " ++ rule.message

end Problem

/-- A problem, the keys that lead to it, and the value that has it. -/
structure Issue where
  place : List String
  problem : Problem
  value : Value
  deriving Repr

/-- A text of at most fifty bytes; of a longer one the first and the last characters. -/
def abridged (s : String) : String :=
  let size := fun cs : List Char => (String.ofList cs).utf8ByteSize
  let rec upTo (n : Nat) : List Char → List Char
    | [] => []
    | c :: rest => if c.utf8Size ≤ n then c :: upTo (n - c.utf8Size) rest else []
  if size s.toList ≤ 50 then s
  else
    String.ofList (upTo 25 s.toList ++ "...".toList ++ (upTo 24 s.toList.reverse).reverse)

/-- An issue on two lines: where it is, and what it is. -/
def Issue.text (i : Issue) : String :=
  ".".intercalate i.place ++ "\n  " ++ i.problem.message ++ " [type=" ++ i.problem.sort ++
    ", input_value=" ++ abridged i.value.nested ++ ", input_type=" ++ i.value.shortSortName ++ "]"

/-- The report of issues. -/
def Issue.report (issues : List Issue) : String :=
  "\n".intercalate ((toString issues.length ++ " validation error" ++
    (if issues.length = 1 then "" else "s") ++ " for AppConfig") :: issues.map Issue.text)

/-- Why the reading of settings ends at once. -/
inductive Abort where
  /-- A key of the settings is no text. -/
  | keyNotText
  /-- The output directory is no text. -/
  | notPath (value : Value)
  deriving Repr

/-- The wording of an end of reading. -/
def Abort.message : Abort → String
  | .keyNotText => "keywords must be strings"
  | .notPath (.bytes _) =>
    "argument should be a str object or an os.PathLike object returning str, not <class 'bytes'>"
  | .notPath v => "expected str, bytes or os.PathLike object, not " ++ v.shortSortName

/-- What the reading of settings has come to. -/
inductive Verdict (α : Type) where
  | valid (value : α)
  | invalid (issues : List Issue)
  | aborted (cause : Abort)

namespace Verdict

variable {α β : Type}

/-- The verdict with its value mapped. -/
protected def map (f : α → β) : Verdict α → Verdict β
  | .valid a => .valid (f a)
  | .invalid issues => .invalid issues
  | .aborted cause => .aborted cause

/-- One verdict after another: the issues of both, unless one ends the reading. -/
protected def seq (f : Verdict (α → β)) (x : Verdict α) : Verdict β :=
  match f, x with
  | .aborted cause, _ => .aborted cause
  | _, .aborted cause => .aborted cause
  | .invalid issues, .valid _ => .invalid issues
  | .valid _, .invalid issues => .invalid issues
  | .invalid issues, .invalid more => .invalid (issues ++ more)
  | .valid f, .valid a => .valid (f a)

instance : Functor Verdict := ⟨Verdict.map, fun a x => Verdict.map (fun _ => a) x⟩

instance : Applicative Verdict where
  pure := Verdict.valid
  seq f x := Verdict.seq f (x ())

/-- The verdict with its issues placed below a key. -/
def below (key : String) : Verdict α → Verdict α
  | .invalid issues => .invalid (issues.map fun i => { i with place := key :: i.place })
  | v => v

/-- The verdict on a value with a problem. -/
def rejected (problem : Problem) (v : Value) : Verdict α := .invalid [⟨[], problem, v⟩]

/-- The verdict on a value that must obey a rule. -/
def require (rule : Rule) (v : Value) (holds : Bool) (a : α) : Verdict α :=
  if holds then .valid a else rejected (.broken rule) v

/-- A further check of a valid value. -/
def andThen (x : Verdict α) (f : α → Verdict β) : Verdict β :=
  match x with
  | .valid a => f a
  | .invalid issues => .invalid issues
  | .aborted cause => .aborted cause

end Verdict

namespace Settings

/-! ## Values -/

/-- The text that bytes are. -/
def textOfBytes? (bs : List UInt8) : Option String := String.fromUTF8? ⟨bs.toArray⟩

/-- A text, which may be given by its bytes. -/
def readText (v : Value) : Verdict String :=
  match v with
  | .text s => .valid s
  | .bytes bs =>
    match textOfBytes? bs with
    | some s => .valid s
    | none => .rejected .unreadableText v
  | .points _ => .rejected .unreadableText v
  | _ => .rejected .notText v

/-- The texts that stand for false. -/
def falseTexts : List String := ["0", "off", "f", "false", "n", "no"]

/-- The texts that stand for true. -/
def trueTexts : List String := ["1", "on", "t", "true", "y", "yes"]

/-- The truth value that a text stands for, in any case of ASCII letters. -/
def booleanOfText? (s : String) : Option Bool :=
  let small := String.ofList (s.toList.map Char.toLower)
  if trueTexts.contains small then some true
  else if falseTexts.contains small then some false
  else none

/-- The truth value or the problem of an integer: zero and one are truth values, and integers of
more than 64 bits are none at all. -/
def booleanOfInt (n : Int) : Except Problem Bool :=
  if n = 0 then .ok false
  else if n = 1 then .ok true
  else if -9223372036854775808 ≤ n ∧ n ≤ 9223372036854775807 then .error .unreadableBoolean
  else .error .notBoolean

/-- The truth value or the problem of a value. -/
def booleanOf : Value → Except Problem Bool
  | .bool b => .ok b
  | .int n => booleanOfInt n
  | .float x => (x.toInt?.map booleanOfInt).getD (.error .notBoolean)
  | .text s => ((booleanOfText? s).map .ok).getD (.error .unreadableBoolean)
  | .bytes bs => (((textOfBytes? bs).bind booleanOfText?).map .ok).getD (.error .unreadableBoolean)
  | .points _ => .error .unreadableText
  | _ => .error .notBoolean

/-- A truth value. -/
def readBoolean (v : Value) : Verdict Bool :=
  match booleanOf v with
  | .ok b => .valid b
  | .error problem => .rejected problem v

/-- The mapping of a structure, whose entries are read in turn. -/
def readMapping {α : Type} (structureName : String) (read : Entries → Verdict α) (v : Value) :
    Verdict α :=
  match v with
  | .mapping entries => read entries
  | _ => .rejected (.notMapping structureName) v

/-- A field: its value where the key is bound, and otherwise its default. -/
def field {α : Type} (entries : Entries) (key : String) (default : α) (read : Value → Verdict α) :
    Verdict α :=
  match entries.get? (.text key) with
  | some v => (read v).below key
  | none => .valid default

/-! ## Rules -/

/-- The placeholders of the path of a log file. -/
def pathPlaceholders : List String := ["environment", "date", "datetime"]

/-- A template of a path. -/
def readPathTemplate (v : Value) : Verdict String :=
  (readText v).andThen fun s =>
    .require .pathPlaceholders v ((Text.placeholders false s).all pathPlaceholders.contains) s

/-- The size or age at which a log file is replaced. -/
def readRotation (v : Value) : Verdict String :=
  (readText v).andThen fun s =>
    .require .rotation v (Quantity.isIn ["mb", "gb", "kb", "day", "days", "hour", "hours"] s) s

/-- The age to which log files are kept. -/
def readRetention (v : Value) : Verdict String :=
  (readText v).andThen fun s =>
    .require .retention v (Quantity.isIn ["day", "days", "week", "weeks", "month", "months"] s) s

/-- A format of the console. -/
def readConsoleFormat (v : Value) : Verdict ConsoleFormat :=
  (readText v).andThen fun s =>
    if s = "simple" then .valid .simple
    else if s = "detailed" then .valid .detailed
    else .rejected (.broken .consoleFormat) v

/-- The levels that can be chosen. -/
def logLevels : List Level := [.debug, .info, .warning, .error, .critical]

/-- A level, in any case. -/
def readLogLevel (v : Value) : Verdict Level :=
  (readText v).andThen fun s =>
    match logLevels.find? fun l => l.name.toList == s.toList.map Text.capital with
    | some l => .valid l
    | none => .rejected (.broken .logLevel) v

/-- A directory. -/
def readOutputDir (v : Value) : Verdict Path :=
  match v with
  | .text _ | .points _ => .valid (Path.ofText v.inMessage)
  | _ => .aborted (.notPath v)

/-- Whether one sequence occurs in another. -/
def occursIn (piece : List Char) : List Char → Bool
  | [] => piece.isEmpty
  | c :: rest => piece.isPrefixOf (c :: rest) || occursIn piece rest

/-- A template of file names. -/
def readFilenameTemplate (v : Value) : Verdict String :=
  (readText v).andThen fun s =>
    if occursIn "\x7bconcept\x7d".toList s.toList then
      .require .filenamePlaceholders v ((Text.placeholders true s).all (· = "concept")) s
    else .rejected (.broken .conceptPlaceholder) v

/-- An encoding, on a machine with some. -/
def readEncoding (codecs : Text.Codecs) (v : Value) : Verdict NamedEncoding :=
  (readText v).andThen fun s =>
    if s.toList.contains '\x00' then .rejected (.broken .nullCharacter) v
    else
      match Text.Encoding.ofName? codecs s with
      | some e => .valid ⟨s, e⟩
      | none => .rejected (.broken (.encoding s)) v

/-- A name space, without the blanks at its ends. -/
def readNamespace (v : Value) : Verdict String :=
  (readText v).andThen fun s =>
    .require .emptyNamespace v (Text.trim s ≠ "") (Text.trim s)

/-! ## Structures -/

/-- The settings of a log file. -/
def FileLog.read (e : Entries) : Verdict FileLog :=
  let d : FileLog := {}
  FileLog.mk <$> field e "enabled" d.enabled readBoolean
    <*> field e "path" d.path readPathTemplate
    <*> field e "rotation" d.rotation readRotation
    <*> field e "retention" d.retention readRetention
    <*> field e "compression" d.compression readText

/-- The settings of the console. -/
def ConsoleLog.read (e : Entries) : Verdict ConsoleLog :=
  let d : ConsoleLog := {}
  ConsoleLog.mk <$> field e "format" d.format readConsoleFormat
    <*> field e "show_time" d.showTime readBoolean
    <*> field e "show_path" d.showPath readBoolean

/-- The settings of logging. -/
def Logging.read (e : Entries) : Verdict Logging :=
  Logging.mk <$> field e "file" {} (readMapping "FileLoggingConfig" FileLog.read)
    <*> field e "console" {} (readMapping "ConsoleLoggingConfig" ConsoleLog.read)

/-- The general settings. -/
def General.read (e : Entries) : Verdict General :=
  General.mk <$> field e "log_level" .info readLogLevel
    <*> field e "logging" {} (readMapping "LoggingConfig" Logging.read)

/-- The settings of schemas. -/
def Generator.read (codecs : Text.Codecs) (e : Entries) : Verdict Generator :=
  let d : Generator := {}
  Generator.mk <$> field e "output_dir" d.outputDir readOutputDir
    <*> field e "filename_template" d.filenameTemplate readFilenameTemplate
    <*> field e "encoding" d.encoding (readEncoding codecs)

end Settings

/-- The name spaces. -/
def Namespaces.read (e : Entries) : Verdict Namespaces :=
  let d : Namespaces := {}
  Namespaces.mk <$> Settings.field e "orm" d.orm Settings.readNamespace
    <*> Settings.field e "orm_diagram" d.diagram Settings.readNamespace

/-- The key of the general settings: `global`, or else `global_`. -/
def Settings.generalKey (e : Entries) : String :=
  if (e.get? (.text "global")).isSome then "global" else "global_"

/-- The settings that a mapping holds; its keys must be texts. -/
def Settings.read (codecs : Text.Codecs) (e : Entries) : Verdict Settings :=
  if e.all fun entry => entry.1.isText then
    Settings.mk <$> field e (generalKey e) {} (readMapping "GlobalConfig" General.read)
      <*> field e "generator" {} (readMapping "GeneratorConfig" (Generator.read codecs))
      <*> field e "namespaces" {} (readMapping "NamespaceConfig" Namespaces.read)
  else .aborted .keyNotText

end RoleSchema
