import RoleSchema.Model.Basic

/-!
# Diagnostics

A diagnostic is a warning or an error about one element of a model. What a run has found is the
list of its diagnostics in the order in which they were recorded.
-/

namespace RoleSchema

/-- How serious a diagnostic is. -/
inductive Severity where
  | warning
  | error
  deriving DecidableEq, Repr

/-- The word for a severity. -/
def Severity.text : Severity → String
  | .warning => "warning"
  | .error => "error"

/-- A warning or an error about an element. -/
structure Diagnostic where
  severity : Severity
  /-- A stable name for the kind of finding. -/
  code : String
  message : String
  element : Id := none
  deriving DecidableEq, Repr

namespace Diagnostic

/-- The code and the message. -/
def summary (d : Diagnostic) : String := d.code ++ ": " ++ d.message

/-- A diagnostic on one line. -/
def line (d : Diagnostic) : String := "[" ++ d.severity.text ++ "] " ++ d.summary

/-- Whether a diagnostic is a warning. -/
def isWarning (d : Diagnostic) : Bool := d.severity == .warning

/-- Whether a diagnostic is an error. -/
def isError (d : Diagnostic) : Bool := d.severity == .error

/-- The diagnostics with a code. -/
def withCode (code : String) (ds : List Diagnostic) : List Diagnostic :=
  ds.filter fun d => d.code == code

end Diagnostic

end RoleSchema
