import RoleSchema.CommandLine.Command

/-!
# Help

The pages that are shown when a command line asks for help, or ends where a command must follow.
-/

namespace RoleSchema.CommandLine

/-- A term and what it means, in two columns. -/
def helpEntry (entry : String × String) : String :=
  "  " ++ entry.1 ++ String.ofList (List.replicate (24 - entry.1.length) ' ') ++ "  " ++ entry.2

/-- A list of terms under a heading. -/
def helpSection (heading : String) (entries : List (String × String)) : List String :=
  ["", heading ++ ":"] ++ entries.map helpEntry

/-- The entry for the option that asks for help. -/
def helpOption : String × String := ("--help", "Show this message and exit.")

namespace Page

/-- How a command is called. -/
def usage : Page → String
  | .program => "ormrel [OPTIONS] COMMAND [ARGS]..."
  | .info => "ormrel info [OPTIONS]"
  | .logs => "ormrel logs [OPTIONS] COMMAND [ARGS]..."
  | .showLog => "ormrel logs show [OPTIONS]"
  | .generate => "ormrel generate [OPTIONS] MODEL_FILE [OUTPUT_DIR]"
  | .diagrams => "ormrel diagrams [OPTIONS] MODEL_FILE"

/-- What a command does. -/
def purpose : Page → String
  | .program => "ormrel - generate Rel integrity constraints from ORM models"
  | .info => "Display information about the ormrel installation."
  | .logs => "Logging and diagnostics commands."
  | .showLog => "Show current logging configuration."
  | .generate => "Generate Rel integrity constraints for every concept diagram."
  | .diagrams => "List the diagrams of a model and the concept each one resolves to."

/-- The options of a command, but for the one that asks for help. -/
def options : Page → List (String × String)
  | .program =>
    [("--version", "Show the version and exit."), ("-c, --config FILE", "Configuration file path"),
      ("-e, --env NAME", "Environment (dev/prod/test)"),
      ("-v, --verbose", "Enable verbose output and debug logging"),
      ("--log-file FILE", "Custom log file path (default: from configuration)"),
      ("--log-info", "Show logging configuration and exit")]
  | .generate =>
    [("--stdout", "Print the generated Rel instead of writing files"),
      ("--strict", "Exit with status 1 when any warning or error was recorded")]
  | _ => []

/-- The commands that can follow a command. -/
def commands : Page → List (String × String)
  | .program => [Page.diagrams, .generate, .info, .logs].map fun p =>
      ((p.usage.toList.drop 7 |>.takeWhile (· ≠ ' ') |> String.ofList), p.purpose)
  | .logs => [("show", Page.showLog.purpose)]
  | _ => []

/-- A page of help. -/
def text (p : Page) : String :=
  let followers := if p.commands.isEmpty then [] else helpSection "Commands" p.commands
  "\n".intercalate
    (["Usage: " ++ p.usage, "", "  " ++ p.purpose] ++
      helpSection "Options" (p.options ++ [helpOption]) ++ followers) ++ "\n"

end Page

end RoleSchema.CommandLine
