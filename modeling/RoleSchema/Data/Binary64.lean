/-!
# Numbers of double precision

The finite numbers of double precision as a significand times a power of two, with the rounding of a
decimal to the nearest of them and the shortest decimal that reads back. All arithmetic is exact, in
natural numbers.
-/

namespace RoleSchema

/-- A number of double precision: `±significand · 2 ^ exponent`, infinite, or not a number. -/
inductive Binary64 where
  | nan
  | infinite (negative : Bool)
  | finite (negative : Bool) (significand : Nat) (exponent : Int)
  deriving DecidableEq, Repr

namespace Binary64

/-- Two to the number of bits of a significand. -/
def limit : Nat := Nat.pow 2 53

/-- A quotient rounded to the nearest number, a tie to the even one. -/
def roundDiv (num den : Nat) : Nat :=
  let q := num / den
  let r := num % den
  if 2 * r > den then q + 1
  else if 2 * r < den then q
  else q + q % 2

/-- `n · base ^ e` as a fraction. -/
def scaled (base n : Nat) (e : Int) : Nat × Nat :=
  if e < 0 then (n, Nat.pow base e.natAbs) else (n * Nat.pow base e.natAbs, 1)

/-- A fraction divided by a power of two. -/
def divPow (num den : Nat) (e : Int) : Nat × Nat :=
  if e < 0 then (num * Nat.pow 2 e.natAbs, den) else (num, den * Nat.pow 2 e.natAbs)

/-- The number nearest to a positive fraction. -/
def ofFraction (negative : Bool) (num den : Nat) : Binary64 :=
  let guess : Int := max ((num.log2 : Int) - (den.log2 : Int) - 53) (-1074)
  let (n₀, d₀) := divPow num den guess
  let e := if n₀ / d₀ ≥ limit then guess + 1 else guess
  let (n, d) := divPow num den e
  let q := roundDiv n d
  let (q, e) := if q ≥ limit then (q / 2, e + 1) else (q, e)
  if e > 971 then .infinite negative else .finite negative q e

/-- The number of decimal digits of a number. -/
def digitCount (n : Nat) : Nat := (Nat.toDigits 10 n).length

/-- The number nearest to `± digits · 10 ^ exponent`. -/
def ofDecimal (negative : Bool) (digits : Nat) (exponent : Int) : Binary64 :=
  if digits = 0 then .finite negative 0 (-1074)
  else
    let size := (digitCount digits : Int) + exponent
    if size > 320 then .infinite negative
    else if size < -340 then .finite negative 0 (-1074)
    else
      let (num, den) := scaled 10 digits exponent
      ofFraction negative num den

/-! ## Arithmetic -/

/-- The number nearest to `± n · 2 ^ e`. -/
def ofScaled (negative : Bool) (n : Nat) (e : Int) : Binary64 :=
  if n = 0 then .finite negative 0 (-1074)
  else
    let (num, den) := scaled 2 n e
    ofFraction negative num den

/-- The number nearest to a natural number. -/
def ofNat (n : Nat) : Binary64 := ofScaled false n 0

/-- The number with the other sign. -/
def neg : Binary64 → Binary64
  | .nan => .nan
  | .infinite negative => .infinite !negative
  | .finite negative n e => .finite (!negative) n e

/-- The product of two numbers. -/
def mul : Binary64 → Binary64 → Binary64
  | .nan, _ | _, .nan => .nan
  | .infinite s, .infinite t => .infinite (s != t)
  | .infinite s, .finite t n _ | .finite t n _, .infinite s =>
    if n = 0 then .nan else .infinite (s != t)
  | .finite s m e, .finite t n f => ofScaled (s != t) (m * n) (e + f)

/-- A natural number with a sign. -/
def signed (negative : Bool) (n : Nat) : Int := if negative then -(n : Int) else n

/-- The sum of two numbers. -/
def add : Binary64 → Binary64 → Binary64
  | .nan, _ | _, .nan => .nan
  | .infinite s, .infinite t => if s = t then .infinite s else .nan
  | .infinite s, .finite _ _ _ | .finite _ _ _, .infinite s => .infinite s
  | .finite s m e, .finite t n f =>
    let least := min e f
    let sum := signed s (m * Nat.pow 2 (e - least).toNat) +
      signed t (n * Nat.pow 2 (f - least).toNat)
    ofScaled (if sum = 0 then s && t else sum < 0) sum.natAbs least

/-- The integer that a number is equal to, if there is one. -/
def toInt? : Binary64 → Option Int
  | .finite negative significand exponent =>
    let (num, den) := scaled 2 significand exponent
    if num % den = 0 then
      some (if negative then -((num / den : Nat) : Int) else ((num / den : Nat) : Int))
    else none
  | _ => none

/-! ## The shortest decimal -/

/-- The number of digits before the decimal point of a positive fraction; zero or negative where
the fraction begins with zeros behind the point. -/
def pointPosition (num den : Nat) : Int :=
  if num ≥ den then digitCount (num / den)
  else
    match (List.range 400).find? fun k => num * Nat.pow 10 (k + 1) ≥ den with
    | some k => -(k : Int)
    | none => 0

/-- The decimal of `count` digits nearest to a positive number, if it reads back as that number:
its digits and the power of ten. -/
def decimalOf? (significand : Nat) (exponent point : Int) (count : Nat) : Option (Nat × Int) :=
  let (num, den) := scaled 2 significand exponent
  let power : Int := point - count
  let unit := Nat.pow 10 power.natAbs
  let (n, d) := if power < 0 then (num * unit, den) else (num, den * unit)
  let q := n / d
  let reads := fun c : Nat => ofDecimal false c power == .finite false significand exponent
  let near := roundDiv n d
  let far := if near = q then q + 1 else q
  if reads near then some (near, power) else if reads far then some (far, power) else none

/-- The digits without the zeros at their end, and the power of ten with these counted in. -/
def dropZeros : Nat → Nat → Int → Nat × Int
  | 0, digits, power => (digits, power)
  | fuel + 1, digits, power =>
    if digits % 10 = 0 && digits ≠ 0 then dropZeros fuel (digits / 10) (power + 1)
    else (digits, power)

/-- The shortest decimal that reads back as a positive number. -/
def shortest (significand : Nat) (exponent : Int) : Nat × Int :=
  let (num, den) := scaled 2 significand exponent
  let point := pointPosition num den
  match (List.range 17).findSome? fun i => decimalOf? significand exponent point (i + 1) with
  | some (digits, power) => dropZeros 400 digits power
  | none => (significand, exponent)

/-- Digits with a decimal point: positional for the sizes from `0.0001` to below `10 ^ 16`, and
otherwise with a power of ten of at least two digits. -/
def decimalText (digits : Nat) (power : Int) : String :=
  let ds := Nat.toDigits 10 digits
  let point : Int := ds.length + power
  let zeros := fun n : Int => List.replicate n.toNat '0'
  if -4 < point && point ≤ 16 then
    if point ≤ 0 then String.ofList ('0' :: '.' :: zeros (-point) ++ ds)
    else
      let whole := ds.take point.toNat ++ zeros (point - ds.length)
      let rest := ds.drop point.toNat
      String.ofList (whole ++ '.' :: (if rest.isEmpty then ['0'] else rest))
  else
    let mantissa := match ds with
      | [] => []
      | [d] => [d]
      | d :: rest => d :: '.' :: rest
    let e := point - 1
    let eds := Nat.toDigits 10 e.natAbs
    let eds := if eds.length < 2 then '0' :: eds else eds
    String.ofList (mantissa ++ 'e' :: (if e < 0 then '-' else '+') :: eds)

/-- The text of a number. -/
def text : Binary64 → String
  | .nan => "nan"
  | .infinite negative => if negative then "-inf" else "inf"
  | .finite negative significand exponent =>
    let body :=
      if significand = 0 then "0.0"
      else
        let (digits, power) := shortest significand exponent
        decimalText digits power
    if negative then "-" ++ body else body

end Binary64

end RoleSchema
