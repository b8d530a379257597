import RoleSchema.Data.Binary64
import RoleSchema.Text.Blank
import RoleSchema.Text.Numeral

/-!
# Numbers from texts

The number that a text spells: an integer in a base, or a number of double precision. Blanks may
stand around it, a sign before it, and its digits may be those of any script.
-/

namespace RoleSchema.Text

/-- Why a text is no integer. -/
inductive IntegerFault where
  | invalid
  /-- There are too many decimal digits. -/
  | tooLong (digits : Nat)
  deriving DecidableEq, Repr

/-- The most decimal digits with which an integer is read or written. -/
def maxDigits : Nat := 4300

/-- The value of a digit of any script, or of a letter that is a digit of a base above ten. -/
def digitValue? (c : Char) : Option Nat := (decimalValue? c).or (hexDigit? c)

/-- Whether a character is a digit of a base. -/
def isDigitIn (base : Nat) (c : Char) : Bool := (digitValue? c).any fun d => d < base

/-- A sign and what follows it. -/
def splitSign : List Char → Bool × List Char
  | '-' :: rest => (true, rest)
  | '+' :: rest => (false, rest)
  | cs => (false, cs)

/-- What follows the mark of a base. -/
def dropBaseMark (base : Nat) (cs : List Char) : List Char :=
  match cs with
  | '0' :: c :: rest =>
    if [(2, 'b'), (8, 'o'), (16, 'x')].contains (base, c.toLower) then rest else cs
  | _ => cs

/-- The number that digits of a base spell. -/
def numberIn (base : Nat) (digits : List Char) : Nat :=
  digits.foldl (fun n c => n * base + (digitValue? c).getD 0) 0

/-- The integer that a text spells in a base. -/
def integerOf (base : Nat) (cs : List Char) : Except IntegerFault Int :=
  let (negative, cs) := splitSign (trimChars cs)
  let cs := dropBaseMark base cs
  let digits := cs.takeWhile (isDigitIn base)
  if base = 10 && maxDigits < digits.length then .error (.tooLong digits.length)
  else if digits.isEmpty || digits.length < cs.length then .error .invalid
  else .ok (Binary64.signed negative (numberIn base digits))

/-- The exponent at the end of a number, if what is there is one. -/
def exponentOf? : List Char → Option Int
  | [] => some 0
  | e :: rest =>
    if e == 'e' || e == 'E' then
      let (negative, digits) := splitSign rest
      if !digits.isEmpty && digits.all isDecimal then
        some (Binary64.signed negative (decimalNumber digits))
      else none
    else none

/-- The number without a sign that a text spells. -/
def unsignedFloat? (negative : Bool) (cs : List Char) : Option Binary64 :=
  let word := String.ofList (cs.map Char.toLower)
  if word == "inf" || word == "infinity" then some (.infinite negative)
  else if word == "nan" then some .nan
  else
    let whole := cs.takeWhile isDecimal
    let rest := cs.drop whole.length
    let fraction := match rest with
      | '.' :: rest => rest.takeWhile isDecimal
      | _ => []
    let rest := match rest with
      | '.' :: rest => rest.drop fraction.length
      | _ => rest
    if whole.isEmpty && fraction.isEmpty then none
    else
      (exponentOf? rest).map fun e =>
        Binary64.ofDecimal negative (decimalNumber (whole ++ fraction)) (e - fraction.length)

/-- The number of double precision that a text spells. -/
def floatOf? (cs : List Char) : Option Binary64 :=
  let (negative, cs) := splitSign (trimChars cs)
  unsignedFloat? negative cs

end RoleSchema.Text
