import RoleSchema.Text.Numeral
import RoleSchema.Text.Split
import RoleSchema.Yaml.Scalar

/-!
# Kinds of nodes

What a node is, its tag says, or else its form. A scalar without a tag is a truth value, a number, a
time, nothing at all, or a text, according to how it is written; a line feed at its end does not
count.
-/

namespace RoleSchema.Yaml

/-- What a node is. -/
inductive Kind where
  | null
  | bool
  | int
  | float
  | text
  | bytes
  | time
  /-- The key under which another mapping is taken in. -/
  | merge
  /-- The key that stands for the value of a mapping itself. -/
  | default
  | list
  | mapping
  | set
  /-- A list of pairs, each written as a mapping of one entry. -/
  | pairs
  /-- Nothing that can have a value. -/
  | unknown (tag : String)
  deriving DecidableEq, Repr

/-! ## Truth values -/

/-- The words for truth values. -/
def truthWords : List (String × Bool) :=
  [("yes", true), ("no", false), ("true", true), ("false", false), ("on", true), ("off", false)]

/-- Whether a word is written in one of its three forms: small, with a capital, or all capitals. -/
def hasForm (word s : String) : Bool :=
  s == word || s == word.capitalize || s == word.toUpper

/-- Whether a scalar is a truth value. -/
def isTruth (s : String) : Bool := truthWords.any fun w => hasForm w.1 s

/-- Whether a scalar says that there is nothing. -/
def isNull (s : String) : Bool := s == "" || s == "~" || hasForm "null" s

/-! ## Numbers -/

/-- The digits of a base, among which low lines may stand. -/
def isDigitOf (base : Nat) (c : Char) : Bool :=
  c == '_' || (Text.hexDigit? c).any fun d => d < base

/-- Whether there are characters and all satisfy a test. -/
def someAll (p : Char → Bool) (cs : List Char) : Bool := !cs.isEmpty && cs.all p

/-- What follows a sign, if there is one. -/
def dropSign : List Char → List Char
  | '-' :: rest | '+' :: rest => rest
  | cs => cs

/-- Whether a piece after a colon counts sixtieths: one digit, or two below sixty. -/
def isSixtieth : List Char → Bool
  | [a] => a.isDigit
  | [a, b] => '0' ≤ a && a ≤ '5' && b.isDigit
  | _ => false

/-- Whether characters are a decimal that does not begin with zero. -/
def isPositive : List Char → Bool
  | c :: rest => '1' ≤ c && c ≤ '9' && rest.all (isDigitOf 10)
  | [] => false

/-- Whether characters are an integer without a sign. -/
def isUnsignedInt (cs : List Char) : Bool :=
  match cs with
  | ['0'] => true
  | '0' :: 'b' :: rest => someAll (isDigitOf 2) rest
  | '0' :: 'x' :: rest => someAll (isDigitOf 16) rest
  | '0' :: rest => someAll (isDigitOf 8) rest
  | _ =>
    match Text.splitOn ':' cs with
    | first :: others => isPositive first && others.all isSixtieth
    | [] => false

/-- Whether characters are an integer. -/
def isInt (cs : List Char) : Bool := isUnsignedInt (dropSign cs)

/-- Whether what follows a fraction is an exponent: a letter, a sign and digits, or nothing. -/
def isExponent : List Char → Bool
  | [] => true
  | e :: sign :: digits =>
    (e == 'e' || e == 'E') && (sign == '+' || sign == '-') && someAll Char.isDigit digits
  | _ => false

/-- Whether characters are digits and low lines that begin with a digit. -/
def isDecimalRun : List Char → Bool
  | c :: rest => c.isDigit && rest.all (isDigitOf 10)
  | [] => false

/-- Whether characters are a number with a point, without its sign. -/
def isUnsignedFloat (signed : Bool) (cs : List Char) : Bool :=
  let s := String.ofList cs
  if [".inf", ".Inf", ".INF"].contains s then true
  else if [".nan", ".NaN", ".NAN"].contains s then !signed
  else
    let whole := cs.takeWhile (· != '.')
    match cs.drop whole.length with
    | [] => false
    | _ :: after =>
      let fraction := after.takeWhile (isDigitOf 10)
      let rest := after.drop fraction.length
      if whole.isEmpty then isDecimalRun fraction && !signed && isExponent rest
      else if isDecimalRun whole then isExponent rest
      else
        match Text.splitOn ':' whole with
        | first :: others => isDecimalRun first && others.all isSixtieth && rest.isEmpty
        | [] => false

/-- Whether characters are a number with a point. -/
def isFloat (cs : List Char) : Bool :=
  let number := dropSign cs
  isUnsignedFloat (number.length != cs.length) number

/-! ## Times -/

/-- The parts of a time as they are written. -/
structure TimeForm where
  year : Nat
  month : Nat
  day : Nat
  clock : Option (Nat × Nat × Nat) := none
  fraction : List Char := []
  /-- Whether a zone is given, and its sign, hours and minutes unless it is that of zero. -/
  zone : Option (Option (Bool × Nat × Nat)) := none
  deriving Repr

/-- Between `least` and `most` digits at the beginning of a text, and what follows them. -/
def digitsUpTo? (least most : Nat) (cs : List Char) : Option (Nat × List Char) :=
  let ds := (cs.take most).takeWhile Char.isDigit
  if ds.length < least then none else some (Text.numberOf 10 ds, cs.drop ds.length)

/-- What follows a given character. -/
def after? (c : Char) : List Char → Option (List Char)
  | d :: rest => if c == d then some rest else none
  | [] => none

/-- The zone at the end of a time. -/
def zone? (cs : List Char) : Option (Option (Option (Bool × Nat × Nat))) :=
  match cs.dropWhile fun c => c == ' ' || c == '\t' with
  | [] => if cs.isEmpty then some none else none
  | ['Z'] => some (some none)
  | sign :: rest => do
    if sign != '+' && sign != '-' then none
    let (hours, rest) ← digitsUpTo? 1 2 rest
    let minutes ← if rest.isEmpty then some 0
      else do
        let (minutes, rest) ← digitsUpTo? 2 2 (← after? ':' rest)
        if rest.isEmpty then some minutes else none
    return some (some (sign == '-', hours, minutes))

/-- The form of a time: a day, or a day and a clock. -/
def timeForm? (cs : List Char) : Option TimeForm := do
  let (year, rest) ← digitsUpTo? 4 4 cs
  let (month, rest) ← digitsUpTo? 1 2 (← after? '-' rest)
  let (day, rest) ← digitsUpTo? 1 2 (← after? '-' rest)
  if rest.isEmpty then return { year, month, day }
  let gap := rest.takeWhile fun c => c == ' ' || c == '\t'
  let rest ← if gap.isEmpty then
      match rest with
      | 'T' :: rest | 't' :: rest => some rest
      | _ => none
    else some (rest.drop gap.length)
  let (hour, rest) ← digitsUpTo? 1 2 rest
  let (minute, rest) ← digitsUpTo? 2 2 (← after? ':' rest)
  let (second, rest) ← digitsUpTo? 2 2 (← after? ':' rest)
  let (fraction, rest) := match rest with
    | '.' :: rest => (rest.takeWhile Char.isDigit, rest.dropWhile Char.isDigit)
    | _ => ([], rest)
  let zone ← zone? rest
  return { year, month, day, clock := some (hour, minute, second), fraction, zone }

/-- Whether characters are a time; a day alone has ten of them. -/
def isTime (cs : List Char) : Bool :=
  (timeForm? cs).any fun t => t.clock.isSome || cs.length = 10

/-! ## Kinds -/

namespace Kind

/-- What the tags of this notation begin with. -/
def tagStem : String := "tag:yaml.org,2002:"

/-- The kind of the characters of a scalar without a tag. -/
def ofChars (cs : List Char) : Kind :=
  let s := String.ofList cs
  if isTruth s then .bool
  else if isFloat cs then .float
  else if isInt cs then .int
  else if s == "<<" then .merge
  else if isNull s then .null
  else if isTime cs then .time
  else if s == "=" then .default
  else if ["!", "&", "*"].contains s then .unknown (tagStem ++ "yaml")
  else .text

/-- The characters of a scalar that tell its kind: a line feed behind others is left out. -/
def telling (cs : List Char) : List Char :=
  match cs.reverse with
  | '\n' :: c :: rest => (c :: rest).reverse
  | _ => cs

/-- The kind of a scalar without a tag. -/
def ofContent (c : Content) : Kind := ofChars (telling c.chars)

/-- The kind with a tag. -/
def ofTag (tag : String) : Kind :=
  ((List.lookup (if tag.startsWith tagStem then (tag.drop tagStem.length).toString else "")
    [("null", null), ("bool", bool), ("int", int), ("float", float), ("str", text),
      ("binary", bytes), ("timestamp", time), ("merge", merge), ("value", default), ("seq", list),
      ("map", mapping), ("set", set), ("omap", pairs), ("pairs", pairs)])).getD (unknown tag)

end Kind

end RoleSchema.Yaml
