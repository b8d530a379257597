import RoleSchema.Data.Calendar
import RoleSchema.Files.Path
import RoleSchema.Report.Basic
import RoleSchema.Text.Encoding
import RoleSchema.Text.Template

/-!
# Settings

The settings of a run and their defaults: what is logged and where, how schemas are named and
written, and the name spaces of model documents.
-/

namespace RoleSchema

open Files (Path)
open Text (Encoding TemplateFault)

/-- The name spaces in which the elements of a document are sought. -/
structure Namespaces where
  /-- The name space of the model. -/
  orm : String := "http://schemas.neumont.edu/ORM/2006-04/ORMCore"
  /-- The name space of the diagrams. -/
  diagram : String := "http://schemas.neumont.edu/ORM/2006-04/ORMDiagram"
  deriving DecidableEq, Repr

/-- The name spaces under the names they go by in documents. -/
def Namespaces.entries (n : Namespaces) : List (String × String) :=
  [("orm", n.orm), ("ormDiagram", n.diagram)]

namespace Settings

/-- Logging to a file. -/
structure FileLog where
  enabled : Bool := false
  /-- The template of the path of the file. -/
  path : String := "logs/ormrel_\x7benvironment\x7d_\x7bdate\x7d.log"
  rotation : String := "10 MB"
  retention : String := "30 days"
  compression : String := "gz"
  deriving DecidableEq, Repr

/-- How much a line on the console tells. -/
inductive ConsoleFormat where
  | simple
  | detailed
  deriving DecidableEq, Repr

/-- The word for a format. -/
def ConsoleFormat.text : ConsoleFormat → String
  | .simple => "simple"
  | .detailed => "detailed"

/-- Logging to the console. -/
structure ConsoleLog where
  format : ConsoleFormat := .simple
  showTime : Bool := true
  showPath : Bool := false
  deriving DecidableEq, Repr

/-- What is logged, and where. -/
structure Logging where
  file : FileLog := {}
  console : ConsoleLog := {}
  deriving DecidableEq, Repr

/-- The general settings. -/
structure General where
  logLevel : Level := .info
  logging : Logging := {}
  deriving DecidableEq, Repr

/-- The name of an encoding and the encoding. -/
structure NamedEncoding where
  name : String
  encoding : Encoding

/-- How schemas are named and written. -/
structure Generator where
  outputDir : Path := Path.ofText "rel/model"
  filenameTemplate : String := "\x7bconcept\x7d_schema.rel"
  encoding : NamedEncoding := ⟨"utf-8", .utf8⟩

/-! ## Log files -/

/-- The values of the placeholders of a path template. -/
def pathValues (environment : String) (now : Moment) : List (String × String) :=
  [("environment", environment), ("date", now.day.digits),
    ("datetime", now.day.digits ++ "_" ++ now.timeDigits)]

/-- The path of the log file in an environment. -/
def FileLog.resolvedPath (f : FileLog) (environment : String) (now : Moment) :
    Except TemplateFault Path :=
  (Text.fill (pathValues environment now) f.path).map Path.ofText

/-- The path of the log file, if there is to be one. -/
def FileLog.activePath (f : FileLog) (environment : String) (now : Moment) :
    Except TemplateFault (Option Path) :=
  if f.enabled then (f.resolvedPath environment now).map some else .ok none

end Settings

/-- The settings of a run. -/
structure Settings where
  general : Settings.General := {}
  generator : Settings.Generator := {}
  namespaces : Namespaces := {}

end RoleSchema
