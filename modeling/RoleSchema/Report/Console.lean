import RoleSchema.Data.Calendar
import RoleSchema.Report.Basic
import RoleSchema.Text.CellWidth
import RoleSchema.Text.Emoji
import RoleSchema.Text.Split

/-!
# Messages on the console

A message has a level, a text and an origin. On a plain stream it is one line with its parts in
columns. On a terminal emoji take the place of their names, control characters are left out, and
tabs are replaced by blanks up to the next multiple of eight columns.

* `expandTabs_of_no_tab`: a line without tabs stays as it is.
-/

namespace RoleSchema

/-- Where in a program a message comes from. -/
structure Origin where
  place : String
  /-- The line, where it is known. -/
  line : Option Nat := none
  deriving DecidableEq, Repr

/-- An origin with its line; a line that is not known is shown as a star. -/
def Origin.textWithLine (o : Origin) : String :=
  o.place ++ ":" ++ (match o.line with
    | some n => toString n
    | none => "*")

/-- A message to be logged. -/
structure Message where
  level : Level
  text : String
  origin : Origin
  deriving DecidableEq, Repr

/-- The name of a level, filled up to the longest one. -/
def Level.column (l : Level) : String :=
  String.ofList (l.name.toList ++ List.replicate (8 - l.name.length) ' ')

namespace Terminal

/-- Whether a control character is left out on a terminal. -/
def isSilent (c : Char) : Bool := ['\x07', '\x08', '\x0b', '\x0c', '\r'].contains c

/-- The columns from one tab stop to the next. -/
def tabWidth : Nat := 8

/-- A line, from some column on, with blanks in place of tabs. -/
def expandTabs (column : Nat) : List Char → List Char
  | [] => []
  | c :: rest =>
    if c = '\t' then
      let blanks := tabWidth - column % tabWidth
      List.replicate blanks ' ' ++ expandTabs (column + blanks) rest
    else c :: expandTabs (column + Text.cellWidth c) rest

/-- The characters of a text that are seen on a terminal. -/
def visible (cs : List Char) : List Char := (Text.replaceEmoji cs).filter fun c => !isSilent c

/-- A text with its tabs replaced, line by line. -/
def laidOut (cs : List Char) : String :=
  String.ofList (Text.joinBy '\n' ((Text.splitOn '\n' cs).map (expandTabs 0)))

/-- A text as it is shown on a terminal. -/
def shown (s : String) : String := laidOut (visible s.toList)

theorem expandTabs_of_no_tab {cs : List Char} (column : Nat) (h : '\t' ∉ cs) :
    expandTabs column cs = cs := by
  induction cs generalizing column with
  | nil => rfl
  | cons c rest ih =>
    have hc : ¬c = '\t' := fun e => h (by simp [e])
    simp [expandTabs, hc, ih _ fun m => h (by simp [m])]

end Terminal

/-- How messages are shown on the console. -/
structure ConsoleStyle where
  /-- On a terminal levels are not padded, and origins are set off. -/
  terminal : Bool
  detailed : Bool
  showTime : Bool
  showPath : Bool
  deriving DecidableEq, Repr

namespace ConsoleStyle

/-- The origin of a message on the console. -/
def originText (c : ConsoleStyle) (o : Origin) : String :=
  let text := if c.showPath then o.textWithLine else o.place
  if c.terminal then "[cyan]" ++ text ++ "[/cyan]" else text

/-- A message on the console. -/
def line (c : ConsoleStyle) (now : Moment) (m : Message) : String :=
  let time := if c.showTime then [now.timeText] else []
  let level := if c.terminal then m.level.name else m.level.column
  let text := if c.detailed then c.originText m.origin ++ " - " ++ m.text else m.text
  " | ".intercalate (time ++ [level, if c.terminal then Terminal.shown text else text])

end ConsoleStyle

/-- A message in a log file. -/
def Message.fileLine (now : Moment) (m : Message) : String :=
  let time := now.day.text ++ " " ++ now.timeText
  " | ".intercalate [time, m.level.column, m.origin.textWithLine ++ " - " ++ m.text] ++ "\n"

end RoleSchema
