/-!
# Days and moments

A day of the calendar, and a moment of a day with its distance from universal time where that is
known, each with the texts in which it is written.
-/

namespace RoleSchema

/-- A day of the calendar. -/
structure Day where
  year : Nat
  month : Nat
  day : Nat
  deriving DecidableEq, Repr

/-- A moment of a day, to the microsecond, with its distance from universal time in minutes where
that is known. -/
structure Moment where
  day : Day
  hour : Nat
  minute : Nat
  second : Nat
  microsecond : Nat := 0
  offset : Option Int := none
  deriving DecidableEq, Repr

/-- A number in at least `width` digits. -/
def padded (width n : Nat) : String :=
  let ds := Nat.toDigits 10 n
  String.ofList (List.replicate (width - ds.length) '0' ++ ds)

/-- A day as year, month and day of the month. -/
def Day.text (d : Day) : String :=
  padded 4 d.year ++ "-" ++ padded 2 d.month ++ "-" ++ padded 2 d.day

/-- A day in eight digits. -/
def Day.digits (d : Day) : String := padded 4 d.year ++ padded 2 d.month ++ padded 2 d.day

/-- Whether a year has a leap day. -/
def isLeap (year : Nat) : Bool := year % 4 == 0 && (year % 100 != 0 || year % 400 == 0)

/-- The number of days of a month. -/
def daysIn (year month : Nat) : Nat :=
  if month == 2 then (if isLeap year then 29 else 28)
  else if [4, 6, 9, 11].contains month then 30 else 31

/-- The number of days before a day, from the beginning of the year 1. -/
def Day.number (d : Day) : Nat :=
  let years := d.year - 1
  let months := (List.range (d.month - 1)).foldl (fun n m => n + daysIn d.year (m + 1)) 0
  years * 365 + years / 4 - years / 100 + years / 400 + months + (d.day - 1)

/-- A day inside a list or a mapping. -/
def Day.nested (d : Day) : String :=
  "datetime.date(" ++ ", ".intercalate ([d.year, d.month, d.day].map toString) ++ ")"

namespace Moment

/-- The distance from universal time as hours and minutes with a sign. -/
def offsetText (minutes : Int) : String :=
  (if minutes < 0 then "-" else "+") ++ padded 2 (minutes.natAbs / 60) ++ ":" ++
    padded 2 (minutes.natAbs % 60)

/-- A span of time: whole days and the seconds left. -/
def spanText (minutes : Int) : String :=
  let seconds := minutes * 60
  let days := Int.fdiv seconds 86400
  let rest := Int.fmod seconds 86400
  let parts := (if days = 0 then [] else ["days=" ++ toString days]) ++
    (if rest = 0 then [] else ["seconds=" ++ toString rest])
  "datetime.timedelta(" ++ ", ".intercalate parts ++ ")"

/-- The distance from universal time inside a list or a mapping. -/
def offsetNested (minutes : Int) : String :=
  if minutes = 0 then "datetime.timezone.utc"
  else "datetime.timezone(" ++ spanText minutes ++ ")"

/-- The microseconds of a moment since the beginning of the year 1, by its own clock. -/
def localTime (t : Moment) : Int :=
  (((t.day.number * 24 + t.hour) * 60 + t.minute) * 60 + t.second) * 1000000 + t.microsecond

/-- Whether two moments are the same: of those with a distance from universal time, what counts is
when they are. -/
def same (t u : Moment) : Bool :=
  match t.offset, u.offset with
  | none, none => t == u
  | some a, some b => t.localTime - a * 60000000 == u.localTime - b * 60000000
  | _, _ => false

/-- The time of a moment, to the second. -/
def timeText (t : Moment) : String :=
  padded 2 t.hour ++ ":" ++ padded 2 t.minute ++ ":" ++ padded 2 t.second

/-- The time of a moment in six digits. -/
def timeDigits (t : Moment) : String :=
  padded 2 t.hour ++ padded 2 t.minute ++ padded 2 t.second

/-- A moment as a day and a time. -/
def text (t : Moment) : String :=
  t.day.text ++ " " ++ t.timeText ++
    (if t.microsecond = 0 then "" else "." ++ padded 6 t.microsecond) ++
    (match t.offset with
      | some minutes => offsetText minutes
      | none => "")

/-- A moment inside a list or a mapping. -/
def nested (t : Moment) : String :=
  let shown := [t.day.year, t.day.month, t.day.day, t.hour, t.minute] ++
    (if t.microsecond ≠ 0 then [t.second, t.microsecond]
      else if t.second ≠ 0 then [t.second] else [])
  let zone := match t.offset with
    | some minutes => ["tzinfo=" ++ offsetNested minutes]
    | none => []
  "datetime.datetime(" ++ ", ".intercalate (shown.map toString ++ zone) ++ ")"

end Moment

end RoleSchema
