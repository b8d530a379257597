import RoleSchema.Xml.Character
import RoleSchema.Xml.Fault

/-!
# Scanning

A scanner reads the beginning of a text in an alphabet. It breaks off where the text ends too early
or where a character does not fit; `Scanner.token` makes a fault of either for the token that is
being read.
-/

namespace RoleSchema.Xml

/-- Why a scanner breaks off. -/
inductive Break where
  /-- The text ends. -/
  | ended
  /-- The first character of what is left does not fit. -/
  | misfit (rest : List Char)
  deriving Repr

/-- A reader of the beginning of a text in an alphabet. -/
abbrev Scanner := ReaderT Alphabet (StateT (List Char) (Except Break))

/-- A qualified name: a name, perhaps with a prefix. -/
structure QName where
  qualifier : Option String
  base : String
  deriving DecidableEq, Repr

/-- A qualified name as it is written. -/
def QName.text (q : QName) : String :=
  match q.qualifier with
  | some p => p ++ ":" ++ q.base
  | none => q.base

namespace Scanner

/-- Breaks off at the next character. -/
def refuse {α : Type} : Scanner α
  | _, [] => .error .ended
  | _, rest => .error (.misfit rest)

/-- Breaks off because the text ends too early. -/
def endEarly {α : Type} : Scanner α := fun _ _ => .error .ended

/-- The next character, which stays. -/
def peek : Scanner Char
  | _, [] => .error .ended
  | _, c :: rest => .ok (c, c :: rest)

/-- Reads a character that fits. -/
def one (fits : Char → Bool) : Scanner Char
  | _, [] => .error .ended
  | _, c :: rest => if fits c then .ok (c, rest) else .error (.misfit (c :: rest))

/-- Reads all characters that fit, perhaps none. -/
def run (fits : Char → Bool) : Scanner (List Char) := fun _ cs =>
  .ok (cs.takeWhile fits, cs.dropWhile fits)

/-- Reads a given text. -/
def exactly : List Char → Scanner Unit
  | [] => pure ()
  | c :: cs => do
    let _ ← one (· == c)
    exactly cs

/-- Repeats a step until it declines, at most `fuel` times. -/
def manyWithin {α : Type} (step : Scanner (Option α)) : Nat → Scanner (List α)
  | 0 => pure []
  | fuel + 1 => do
    match ← step with
    | none => pure []
    | some a => return a :: (← manyWithin step fuel)

/-- Repeats a step until it declines. Every step but the last reads something, so the length of the
text bounds their number. -/
def many {α : Type} (step : Scanner (Option α)) : Scanner (List α) := fun a cs =>
  manyWithin step (cs.length + 1) a cs

/-- Reads blanks and says whether there were any. -/
def blanks : Scanner Bool := do return !(← run isBlank).isEmpty

/-- Reads a name without a prefix. -/
def name : Scanner String := do
  let a ← read
  let first ← one (isNameStart a)
  let others ← run (isNameChar a)
  return String.ofList (first :: others)

/-- Reads a name that may have a prefix. -/
def qname : Scanner QName := do
  let first ← name
  if (← peek) == ':' then
    let _ ← one (· == ':')
    return ⟨some first, ← name⟩
  return ⟨none, first⟩

/-- Reads the token at the beginning of a text. -/
def token {α : Type} (s : Scanner α) (a : Alphabet) (text : List Char) :
    Except Fault (α × List Char) :=
  match s a text with
  | .ok r => .ok r
  | .error .ended => .error ⟨.unclosedToken, text⟩
  | .error (.misfit rest) => .error ⟨.invalidToken, rest⟩

end Scanner

end RoleSchema.Xml
