import RoleSchema.Text.Numeral
import RoleSchema.Xml.Scanner

/-!
# References

A reference stands for a character by its number or for an entity by its name. A text with
references is read as a list of pieces, each with its place.
-/

namespace RoleSchema.Xml

/-- What an ampersand refers to. -/
inductive Reference where
  | entity (name : String)
  | character (number : Nat)
  deriving DecidableEq, Repr

/-- A piece of a text with references. -/
inductive Piece where
  | char (c : Char)
  | reference (r : Reference)
  deriving DecidableEq, Repr

/-- A piece and the text that begins with it. -/
structure Placed where
  piece : Piece
  place : List Char
  deriving Repr

/-- The five entities that every document has. -/
def predefinedEntity? (name : String) : Option Char :=
  match name with
  | "lt" => some '<'
  | "gt" => some '>'
  | "amp" => some '&'
  | "quot" => some '"'
  | "apos" => some '\''
  | _ => none

namespace Scanner

/-- Reads digits and the semicolon after them. -/
def digits (base : Nat) (fits : Char → Bool) : Scanner Reference := do
  let first ← one fits
  let others ← run fits
  let _ ← one (· == ';')
  return .character (Text.numberOf base (first :: others))

/-- Reads a reference after its ampersand. -/
def reference : Scanner Reference := do
  if (← peek) == '#' then
    let _ ← one (· == '#')
    if (← peek) == 'x' then
      let _ ← one (· == 'x')
      digits 16 fun c => (Text.hexDigit? c).isSome
    else digits 10 Char.isDigit
  else
    let n ← name
    let _ ← one (· == ';')
    return .entity n

/-- Reads a piece; `fits` says which characters may stand for themselves. -/
def piece (fits : Char → Bool) : Scanner Placed := do
  let place ← get
  if (← peek) == '&' then
    let _ ← one (· == '&')
    return ⟨.reference (← reference), place⟩
  return ⟨.char (← one fits), place⟩

/-- Whether a character may stand for itself in the value of an attribute. -/
def fitsValue (c : Char) : Bool := isAllowed c && c != '<'

/-- Reads pieces between quotation marks. -/
def quotedPieces : Scanner (List Placed) := do
  let quote ← one fun c => c == '"' || c == '\''
  let ps ← many do
    if (← peek) == quote then return none
    return some (← piece fitsValue)
  let _ ← one (· == quote)
  return ps

/-- Reads a whole text, as far as `fuel` steps lead, by a step. A step that breaks off makes an
invalid token; what was read before it stays. -/
def wholeWithin {α : Type} (step : Scanner α) (a : Alphabet) :
    Nat → List Char → List α × Option Fault
  | 0, _ | _ + 1, [] => ([], none)
  | fuel + 1, text =>
    match step a text with
    | .ok (x, rest) =>
      let (xs, fault) := wholeWithin step a fuel rest
      (x :: xs, fault)
    | .error .ended => ([], some ⟨.invalidToken, text⟩)
    | .error (.misfit rest) => ([], some ⟨.invalidToken, rest⟩)

/-- Reads a whole text by a step, each time with some of the text. -/
def whole {α : Type} (step : Scanner α) (a : Alphabet) (text : List Char) :
    List α × Option Fault :=
  wholeWithin step a text.length text

end Scanner

/-- A result for the part of a text that was read, unless the rest of it could not be read. -/
def orFault {α : Type} (fault : Option Fault) (x : Except Fault α) : Except Fault α := do
  let a ← x
  match fault with
  | none => return a
  | some f => throw f

end RoleSchema.Xml
