import RoleSchema.Text.Quoted

/-!
# Refused command lines

Why a command line is refused before its command is run, and how that is told.
-/

namespace RoleSchema.CommandLine

/-- Why the value of an option or an argument is refused. -/
inductive ValueProblem where
  | noSuchFile (text : String)
  | directoryForFile (text : String)
  | fileForDirectory (text : String)
  | notAmong (text : String) (choices : List String)
  deriving DecidableEq, Repr

/-- Why a command line is refused. -/
inductive UsageProblem where
  | missingCommand
  /-- A command is unknown; the `similar` ones may have been meant. -/
  | noSuchCommand (name : String) (similar : List String)
  /-- An option is unknown; the `similar` ones may have been meant. -/
  | noSuchOption (name : String) (similar : List String)
  | valueMissing (option : String)
  | valueGiven (option : String)
  /-- A value is refused; `parameter` says for what it was given. -/
  | badValue (parameter : String) (problem : ValueProblem)
  | missingArgument (name : String)
  | extraArguments (texts : List String)
  deriving DecidableEq, Repr

/-- The wording of a problem with a value. -/
def ValueProblem.message : ValueProblem → String
  | .noSuchFile text => "File " ++ Text.quoted text ++ " does not exist."
  | .directoryForFile text => "File " ++ Text.quoted text ++ " is a directory."
  | .fileForDirectory text => "Directory " ++ Text.quoted text ++ " is a file."
  | .notAmong text choices =>
    Text.quoted text ++ " is not one of " ++ ", ".intercalate (choices.map Text.quoted) ++ "."

/-- The names that may have been meant, as they are suggested. -/
def suggestion : List String → String
  | [] => ""
  | [name] => " Did you mean " ++ Text.quoted name ++ "?"
  | names => " (Did you mean one of: " ++ ", ".intercalate (names.map Text.quoted) ++ "?)"

/-- The wording of a problem. -/
def UsageProblem.message : UsageProblem → String
  | .missingCommand => "Missing command."
  | .noSuchCommand name similar =>
    "No such command " ++ Text.quoted name ++ "." ++ suggestion similar
  | .noSuchOption name similar =>
    "No such option " ++ Text.quoted name ++ "." ++ suggestion similar
  | .valueMissing option => "Option " ++ Text.quoted option ++ " requires an argument."
  | .valueGiven option => "Option " ++ Text.quoted option ++ " does not take a value."
  | .badValue parameter problem => "Invalid value for " ++ parameter ++ ": " ++ problem.message
  | .missingArgument name => "Missing argument '" ++ name ++ "'."
  | .extraArguments texts =>
    "Got unexpected extra argument" ++ (if texts.length = 1 then "" else "s") ++ " (" ++
      " ".intercalate texts ++ ")"

end RoleSchema.CommandLine
