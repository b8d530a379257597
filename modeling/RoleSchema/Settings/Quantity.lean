import RoleSchema.Data.Binary64
import RoleSchema.Text.Blank
import RoleSchema.Text.Numeral

/-!
# Quantities

The size or age at which a log file is replaced or removed is a number, blanks and a unit. Sizes may
be as large as they like; an age must fit into a span of time.
-/

namespace RoleSchema.Settings

/-- A number of units; the unit is in small letters. -/
structure Quantity where
  amount : Nat
  unit : String
  deriving DecidableEq, Repr

/-- A letter without regard to case; the long s and the Kelvin sign count as s and k. -/
def caselessChar (c : Char) : Char :=
  if c = 'ſ' then 's' else if c = '\u212a' then 'k' else c.toLower

/-- Characters without one line feed at their end. -/
def dropLineFeed (cs : List Char) : List Char :=
  match cs.reverse with
  | '\n' :: rest => rest.reverse
  | _ => cs

/-- Why an age is no span of time. -/
inductive SpanFault where
  | infinite
  | tooLong (days : Nat)
  deriving DecidableEq, Repr

/-- The largest number of days in a span of time. -/
def maxDays : Nat := 999999999

/-- The wording of a fault. -/
def SpanFault.message : SpanFault → String
  | .infinite => "cannot convert float infinity to integer"
  | .tooLong days =>
    if days > 2147483647 then "Python int too large to convert to C int"
    else "days=" ++ toString days ++ "; must have magnitude <= " ++ toString maxDays

namespace Quantity

/-- The quantity that a text is: a number, blanks, a unit, and perhaps a line feed. -/
def ofText? (s : String) : Option Quantity :=
  let digits := s.toList.takeWhile Text.isDecimal
  let rest := (s.toList.dropWhile Text.isDecimal).dropWhile Text.isBlank
  if digits.isEmpty then none
  else some ⟨Text.decimalNumber digits, String.ofList ((dropLineFeed rest).map caselessChar)⟩

/-- Whether a text is a quantity in one of some units. -/
def isIn (units : List String) (s : String) : Bool :=
  match ofText? s with
  | some q => units.contains q.unit
  | none => false

/-- The seconds in a unit of time. -/
def seconds? (unit : String) : Option Nat :=
  [("hour", 3600), ("hours", 3600), ("day", 86400), ("days", 86400), ("week", 604800),
    ("weeks", 604800), ("month", 2628000), ("months", 2628000)].lookup unit

/-- The span of time that a quantity is, in seconds; a size is none. -/
def span? (q : Quantity) : Except SpanFault (Option Nat) :=
  match seconds? q.unit with
  | none => .ok none
  | some seconds =>
    let total := q.amount * seconds
    let days := total / 86400
    if Binary64.ofDecimal false total 0 = .infinite false then .error .infinite
    else if days > maxDays then .error (.tooLong days)
    else .ok (some total)

end Quantity

/-- Checks that a text which is an age is a span of time. -/
def checkSpan (s : String) : Except SpanFault Unit :=
  match Quantity.ofText? s with
  | some q => q.span?.map fun _ => ()
  | none => .ok ()

end RoleSchema.Settings
