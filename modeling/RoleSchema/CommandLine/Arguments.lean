import RoleSchema.CommandLine.Usage
import RoleSchema.Text.Similarity

/-!
# Arguments

A command line is told apart into options with their values and the positional arguments. An option
has a long name, which takes its value after `=` or from the next text, and may have a letter;
letters can be written together, the last with its value behind it. After `--` all texts are
positional. For a command that is followed by another one, the first positional argument ends the
options.
-/

namespace RoleSchema.CommandLine

/-- An option that a command knows. -/
structure OptionForm where
  /-- The long name, with its dashes. -/
  name : String
  letter : Option Char := none
  takesValue : Bool := false
  deriving DecidableEq, Repr

/-- An option that is given. -/
structure Given where
  name : String
  value : Option String := none
  deriving DecidableEq, Repr

/-- A command line that has been told apart. -/
structure Arguments where
  options : List Given := []
  positional : List String := []
  deriving DecidableEq, Repr

namespace Arguments

/-- Puts options in front. -/
def withOptions (given : List Given) (a : Arguments) : Arguments :=
  { a with options := given ++ a.options }

/-- Puts a positional argument in front. -/
def withPositional (text : String) (a : Arguments) : Arguments :=
  { a with positional := text :: a.positional }

/-- Whether an option is given. -/
def gives (a : Arguments) (name : String) : Bool := a.options.any fun g => g.name == name

/-- The value of an option; the last one counts. -/
def value? (a : Arguments) (name : String) : Option String :=
  (a.options.reverse.find? fun g => g.name == name).bind Given.value

end Arguments

/-- An option that waits for its value, under the name by which it was given. -/
structure Waiting where
  form : OptionForm
  shown : String
  deriving DecidableEq, Repr

/-- What one text of a command line is. -/
inductive Piece where
  /-- The mark after which all is positional. -/
  | separator
  | positional
  | options (given : List Given) (waiting : Option Waiting)
  deriving DecidableEq, Repr

/-- The options in a run of letters. -/
def Piece.ofLetters (forms : List OptionForm) : List Char → Except UsageProblem Piece
  | [] => .ok (.options [] none)
  | c :: rest =>
    match forms.find? fun f => f.letter == some c with
    | none => .error (.noSuchOption (String.ofList ['-', c]) [])
    | some f =>
      if f.takesValue then
        .ok (if rest.isEmpty then .options [] (some ⟨f, String.ofList ['-', c]⟩)
          else .options [⟨f.name, some (String.ofList rest)⟩] none)
      else
        (ofLetters forms rest).map fun
          | .options given waiting => .options (⟨f.name, none⟩ :: given) waiting
          | p => p

/-- The option with a long name, and with the value behind `=` if there is one. -/
def Piece.ofLong (f : OptionForm) (value : Option String) : Except UsageProblem Piece :=
  match f.takesValue, value with
  | true, some v => .ok (.options [⟨f.name, some v⟩] none)
  | true, none => .ok (.options [] (some ⟨f, f.name⟩))
  | false, some _ => .error (.valueGiven f.name)
  | false, none => .ok (.options [⟨f.name, none⟩] none)

/-- What a text is to a command that knows some options. -/
def Piece.ofText (forms : List OptionForm) (text : String) : Except UsageProblem Piece :=
  match text.toList with
  | ['-', '-'] => .ok .separator
  | '-' :: c :: rest =>
    let all := '-' :: c :: rest
    let name := String.ofList (all.takeWhile (· ≠ '='))
    let value := match all.dropWhile (· ≠ '=') with
      | _ :: v => some (String.ofList v)
      | [] => none
    match forms.find? fun f => f.name == name with
    | some f => ofLong f value
    | none =>
      if c = '-' then
        .error (.noSuchOption name (Text.similarNames (forms.map OptionForm.name) name))
      else ofLetters forms (c :: rest)
  | _ => .ok .positional

namespace Arguments

/-- Tells a command line apart, the first text of which may be the value that an option waits for.
Options may stand among the positional arguments if these are `mixed`. -/
def readFrom (forms : List OptionForm) (mixed : Bool) :
    Option Waiting → List String → Except UsageProblem Arguments
  | none, [] => .ok {}
  | some w, [] => .error (.valueMissing w.shown)
  | some w, text :: rest =>
    (readFrom forms mixed none rest).map (withOptions [⟨w.form.name, some text⟩])
  | none, text :: rest =>
    match Piece.ofText forms text with
    | .error problem => .error problem
    | .ok .separator => .ok { positional := rest }
    | .ok .positional =>
      if mixed then (readFrom forms mixed none rest).map (withPositional text)
      else .ok { positional := text :: rest }
    | .ok (.options given waiting) =>
      (readFrom forms mixed waiting rest).map (withOptions given)

/-- Tells a command line apart. -/
def read (forms : List OptionForm) (mixed : Bool) (texts : List String) :
    Except UsageProblem Arguments :=
  readFrom forms mixed none texts

end Arguments

end RoleSchema.CommandLine
