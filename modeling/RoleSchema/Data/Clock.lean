import RoleSchema.Data.Calendar

/-!
# Formats of moments

A format is a text in which letters stand for parts of a moment: `YYYY` for the year, `MM` and `M`
for the month with and without a leading zero, and so on. The longest run of letters that stands for
something counts; all other characters stand for themselves.
-/

namespace RoleSchema.Moment

/-- The hour of half a day. -/
def halfHour (t : Moment) : Nat := (t.hour + 11) % 12 + 1

/-- The letters that stand for parts of a moment, the longer before the shorter. -/
def formatLetters (t : Moment) : List (String × String) :=
  [("YYYY", padded 4 t.day.year), ("YY", padded 2 (t.day.year % 100)),
    ("MM", padded 2 t.day.month), ("M", toString t.day.month),
    ("DD", padded 2 t.day.day), ("D", toString t.day.day),
    ("HH", padded 2 t.hour), ("H", toString t.hour),
    ("hh", padded 2 t.halfHour), ("h", toString t.halfHour),
    ("mm", padded 2 t.minute), ("m", toString t.minute),
    ("ss", padded 2 t.second), ("s", toString t.second),
    ("SSSSSS", padded 6 t.microsecond), ("SSSSS", padded 5 (t.microsecond / 10)),
    ("SSSS", padded 4 (t.microsecond / 100)), ("SSS", padded 3 (t.microsecond / 1000)),
    ("SS", padded 2 (t.microsecond / 10000)), ("S", toString (t.microsecond / 100000)),
    ("A", if t.hour < 12 then "AM" else "PM")]

/-- The text of a moment in a format. The first argument bounds the number of characters to read;
the length of the format is enough. -/
def formatWithin (t : Moment) : Nat → List Char → List Char
  | _, [] => []
  | 0, _ :: _ => []
  | n + 1, c :: rest =>
    match t.formatLetters.find? fun l => l.1.toList.isPrefixOf (c :: rest) with
    | some (letters, text) =>
      text.toList ++ formatWithin t n ((c :: rest).drop letters.length)
    | none => c :: formatWithin t n rest

/-- The text of a moment in a format. -/
def formatChars (t : Moment) (format : List Char) : List Char :=
  t.formatWithin format.length format

end RoleSchema.Moment
