import RoleSchema.Report.Markup

/-!
# Printed reports

What a command prints besides its output: texts with tags, and tables of them. A report is shown as
the console renders its texts; where one of them has tags that cannot be shown, none of the report
is.
-/

namespace RoleSchema

/-- A text between the tags for a style. -/
def Markup.styled (style text : String) : String := "[" ++ style ++ "]" ++ text ++ "[/" ++ style ++ "]"

/-- A table of texts with tags. -/
structure Table where
  title : String
  columns : List String
  rows : List (List String)
  deriving DecidableEq, Repr

namespace Table

/-- The texts of a table as they are gone through: column by column, and the title at last. -/
def texts (t : Table) : List String :=
  (t.columns.zipIdx.flatMap fun (heading, n) => heading :: t.rows.filterMap (·[n]?)) ++ [t.title]

/-- A table as it is shown. The texts are gone through first, for the first one that cannot be
shown. -/
def shown (t : Table) : Except Markup.Fault Table := do
  let _ ← t.texts.mapM Markup.rendered
  return {
    title := ← Markup.rendered t.title
    columns := ← t.columns.mapM Markup.rendered
    rows := ← t.rows.mapM (·.mapM Markup.rendered) }

end Table

/-- What is printed at once. -/
inductive Printed where
  | line (text : String)
  | table (t : Table)
  deriving DecidableEq, Repr

namespace Printed

/-- A report as it is shown. -/
def shown : Printed → Except Markup.Fault Printed
  | .line text => (Markup.rendered text).map .line
  | .table t => t.shown.map .table

/-- Why a report cannot be shown. -/
def fault? (p : Printed) : Option Markup.Fault :=
  match p.shown with
  | .ok _ => none
  | .error fault => some fault

/-- The lines of a report; the cells of a table are set apart by bars. -/
def lines : Printed → List String
  | .line text => [text]
  | .table t =>
    t.title :: " | ".intercalate t.columns :: t.rows.map fun row => " | ".intercalate row

end Printed

end RoleSchema
