import RoleSchema.Data.Base64
import RoleSchema.Text.Case
import RoleSchema.Text.Number
import RoleSchema.Yaml.Kind

/-!
# Values of scalars

The value of a scalar of a kind. The kind may have been given by a tag, so that the text need not
have the form that goes with it; then it is read as far as it can be, or it is a fault.
-/

namespace RoleSchema.Yaml

/-! ## Numbers -/

/-- The integer that a part of a scalar spells in a base. -/
def integerIn (base : Nat) (cs : List Char) : Except Fault Int :=
  match Text.integerOf base cs with
  | .ok n => .ok n
  | .error .invalid =>
    let shown := (Text.quoted (String.ofList cs)).toList.take 200
    .error (.badValue ("invalid literal for int() with base " ++ toString base ++ ": " ++
      String.ofList shown))
  | .error (.tooLong digits) =>
    .error (.badValue ("Exceeds the limit (" ++ toString Text.maxDigits ++
      " digits) for integer string conversion: value has " ++ toString digits ++
      " digits; use sys.set_int_max_str_digits() to increase the limit"))

/-- An integer without a sign. -/
def unsignedValue (cs : List Char) : Except Fault Int :=
  match cs with
  | [] => .error .noDigits
  | ['0'] => .ok 0
  | '0' :: 'b' :: rest => integerIn 2 rest
  | '0' :: 'x' :: rest => integerIn 16 rest
  | '0' :: _ => integerIn 8 cs
  | _ =>
    if cs.contains ':' then do
      let parts ← (Text.splitOn ':' cs).mapM (integerIn 10)
      return parts.foldl (fun n part => n * 60 + part) 0
    else integerIn 10 cs

/-- An integer, low lines left out. -/
def intValue (cs : List Char) : Except Fault Int :=
  let cs := cs.filter (· != '_')
  let (negative, number) := Text.splitSign cs
  (unsignedValue number).map fun n => if negative then -n else n

/-- The number of double precision that a part of a scalar spells. -/
def floatIn (cs : List Char) : Except Fault Binary64 :=
  match Text.floatOf? cs with
  | some x => .ok x
  | none =>
    .error (.badValue ("could not convert string to float: " ++ Text.quoted (String.ofList cs)))

/-- Adds up parts, the first of which counts `unit`s and each further one sixty times as much. -/
def sumSixties (sum : Binary64) (unit : Nat) : List Binary64 → Except Fault Binary64
  | [] => .ok sum
  | part :: rest =>
    match Binary64.ofNat unit with
    | .infinite _ => .error (.tooLarge "int too large to convert to float")
    | factor => sumSixties (sum.add (part.mul factor)) (unit * 60) rest

/-- A number of double precision without a sign, in small letters. -/
def unsignedFloatValue (cs : List Char) : Except Fault Binary64 :=
  if cs = ".inf".toList then .ok (.infinite false)
  else if cs = ".nan".toList then .ok .nan
  else if cs.contains ':' then do
    let parts ← (Text.splitOn ':' cs).mapM floatIn
    sumSixties (.ofNat 0) 1 parts.reverse
  else floatIn cs

/-- A number of double precision, low lines left out. -/
def floatValue (cs : List Char) : Except Fault Binary64 :=
  let cs := Text.lowerChars (cs.filter (· != '_'))
  let (negative, number) := Text.splitSign cs
  if cs.isEmpty then .error .noDigits
  else (unsignedFloatValue number).map fun x => if negative then x.neg else x

/-! ## Times -/

/-- The day of a time. -/
def TimeForm.dayOf (t : TimeForm) : Except Fault Day :=
  if t.year = 0 then .error (.badValue "year 0 is out of range")
  else if t.month = 0 || t.month > 12 then .error (.badValue "month must be in 1..12")
  else if t.day = 0 || t.day > daysIn t.year t.month then
    .error (.badValue "day is out of range for month")
  else .ok ⟨t.year, t.month, t.day⟩

/-- The millionths of a second that digits after a point stand for; digits beyond them are left
out. -/
def millionths (fraction : List Char) : Nat :=
  let ds := fraction.take 6
  Text.numberOf 10 ds * Nat.pow 10 (6 - ds.length)

/-- The wording of an offset of a day or more. -/
def offsetProblem (minutes : Int) : String :=
  "offset must be a timedelta strictly between -timedelta(hours=24) and timedelta(hours=24), " ++
    "not " ++ Moment.spanText minutes ++ "."

/-- The value of a time. -/
def TimeForm.value (t : TimeForm) : Except Fault Value :=
  match t.clock with
  | none => return .day (← t.dayOf)
  | some (hour, minute, second) => do
    let offset ← match t.zone with
      | none => pure none
      | some none => pure (some 0)
      | some (some (negative, hours, minutes)) =>
        let span : Int := (hours * 60 + minutes : Nat)
        let offset := if negative then -span else span
        if span ≥ 1440 then throw (.badValue (offsetProblem offset))
        pure (some offset)
    let day ← t.dayOf
    if hour > 23 then throw (.badValue "hour must be in 0..23")
    if minute > 59 then throw (.badValue "minute must be in 0..59")
    if second > 59 then throw (.badValue "second must be in 0..59")
    return .moment ⟨day, hour, minute, second, millionths t.fraction, offset⟩

/-! ## Scalars -/

/-- The value of a scalar of a kind. -/
def scalarValue (k : Kind) (content : Content) : Except Fault Value :=
  let cs := content.chars
  match k with
  | .null => .ok .null
  | .text => .ok content.value
  | .bool =>
    let word := Text.lower (String.ofList cs)
    match truthWords.lookup word with
    | some b => .ok (.bool b)
    | none => .error (.unknownWord word)
  | .int => (intValue cs).map .int
  | .float => (floatValue cs).map .float
  | .time =>
    match timeForm? (Kind.telling cs) with
    | some t => t.value
    | none => .error .noTime
  | .bytes =>
    match if cs.all fun c => c.toNat < 0x80 then Base64.decode cs else none with
    | some bytes => .ok (.bytes bytes)
    | none => .error .malformed
  | _ => .error .malformed

end RoleSchema.Yaml
