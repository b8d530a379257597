import RoleSchema.CommandLine.Arguments
import RoleSchema.Files.Store

/-!
# Commands

The options for the whole program and the commands with their own arguments. The options for the
program come first and are read before the command is; a question for help or for the version is
answered as soon as the options in which it stands have been told apart.
-/

namespace RoleSchema.CommandLine

open Files (FileFault Path Store)

/-- The pages of help. -/
inductive Page where
  | program
  | info
  | logs
  | showLog
  | generate
  | diagrams
  deriving DecidableEq, Repr

/-- Why a command line comes to no command. -/
inductive Halt where
  | help (page : Page)
  | version
  /-- Nothing follows where a command must. -/
  | bare (page : Page)
  | refused (problem : UsageProblem)
  /-- A path that no file can have is asked for. -/
  | broken (fault : FileFault)
  deriving DecidableEq, Repr

/-- The options for the whole program. -/
structure Globals where
  config : Option Path
  environment : String
  verbose : Bool
  logFile : Option Path
  logInfo : Bool
  deriving DecidableEq, Repr

/-- What a run does. -/
inductive Command where
  | info
  | showLog
  | generate (model : Path) (directory : Option Path) (toOutput strict : Bool)
  | diagrams (model : Path)
  deriving DecidableEq, Repr

/-! ## Values -/

/-- What is at a path as it is typed: nothing at an empty one, and no file where a slash ends it. -/
def typedStatus (store : Store) (text : String) : Store.Status :=
  match store.status (Path.ofText text) with
  | .file bytes =>
    if ((Text.splitOn '/' text.toList).getLast?.map Files.isPart).getD false then .file bytes
    else .absent
  | status => if text = "" then .absent else status

/-- What is at a path as it is typed; no file system can be asked about a null character. -/
def knownStatus (store : Store) (text : String) : Except Halt Store.Status :=
  if text.toList.contains '\x00' then .error (.broken ⟨.nullCharacter, Path.ofText text⟩)
  else .ok (typedStatus store text)

/-- The refusal of a value. -/
def badValue (parameter : String) (problem : ValueProblem) : Halt :=
  .refused (.badValue parameter problem)

/-- The path of a file that must be there. -/
def existingFile (store : Store) (parameter text : String) : Except Halt Path := do
  match ← knownStatus store text with
  | .absent => throw (badValue parameter (.noSuchFile text))
  | .directory => throw (badValue parameter (.directoryForFile text))
  | .file _ => return Path.ofText text

/-- The path of a file that need not be there. -/
def possibleFile (store : Store) (parameter text : String) : Except Halt Path := do
  match ← knownStatus store text with
  | .directory => throw (badValue parameter (.directoryForFile text))
  | _ => return Path.ofText text

/-- The path of a directory that need not be there. -/
def possibleDirectory (store : Store) (parameter text : String) : Except Halt Path := do
  match ← knownStatus store text with
  | .file _ => throw (badValue parameter (.fileForDirectory text))
  | _ => return Path.ofText text

/-- The environments under the names by which they can be chosen. -/
def environments : List (String × String) :=
  [("prod", "production"), ("production", "production"), ("dev", "development"),
    ("development", "development"), ("test", "test")]

/-- The environment with a name. -/
def environmentOf (text : String) : Except Halt String :=
  match environments.lookup text with
  | some environment => .ok environment
  | none => .error (badValue "'--env' / '-e'" (.notAmong text (environments.map Prod.fst)))

/-! ## Options for the program -/

/-- The option that asks for help. -/
def helpForm : OptionForm := ⟨"--help", none, false⟩

/-- The options for the whole program. -/
def programForms : List OptionForm :=
  [⟨"--config", some 'c', true⟩, ⟨"--env", some 'e', true⟩, ⟨"--verbose", some 'v', false⟩,
    ⟨"--log-file", none, true⟩, ⟨"--log-info", none, false⟩, ⟨"--version", none, false⟩, helpForm]

/-- Arguments that ask neither for help nor for the version; what is asked first counts. -/
def unasked (page : Page) (a : Arguments) : Except Halt Arguments :=
  match a.options.find? fun g => g.name == "--help" || g.name == "--version" with
  | none => .ok a
  | some g => .error (if g.name = "--help" then .help page else .version)

/-- Tells the arguments of a command apart, which knows some options and the one for help. -/
def readArguments (page : Page) (forms : List OptionForm) (mixed : Bool) (texts : List String) :
    Except Halt Arguments :=
  match Arguments.read (forms ++ [helpForm]) mixed texts with
  | .error problem => .error (.refused problem)
  | .ok a => unasked page a

/-- Checks an option for the program. -/
def checkOption (store : Store) (a : Arguments) (name : String) : Except Halt Unit :=
  match name, a.value? name with
  | "--config", some text => (existingFile store "'--config' / '-c'" text).map fun _ => ()
  | "--env", some text => (environmentOf text).map fun _ => ()
  | "--log-file", some text => (possibleFile store "'--log-file'" text).map fun _ => ()
  | _, _ => .ok ()

/-- The options for the program, and the texts that follow them. -/
def readGlobals (store : Store) (texts : List String) : Except Halt (Globals × List String) := do
  let a ← readArguments .program programForms.dropLast false texts
  a.options.forM fun g => checkOption store a g.name
  let environment ← environmentOf ((a.value? "--env").getD "development")
  return (
    { config := (a.value? "--config").map Path.ofText
      environment
      verbose := a.gives "--verbose"
      logFile := (a.value? "--log-file").map Path.ofText
      logInfo := a.gives "--log-info" },
    a.positional)

/-! ## Commands -/

/-- Whether a name looks like an option. -/
def looksLikeOption (name : String) : Bool :=
  match name.toList with
  | c :: _ => !c.isAlphanum
  | [] => false

/-- The first of the texts, if it is among the names of commands, and the others. A name that looks
like an option is read as one before it is refused. -/
def chosen (names : List String) (options : List String → Except Halt Unit) :
    List String → Except Halt (String × List String)
  | [] => .error (.refused .missingCommand)
  | name :: rest =>
    if names.contains name then .ok (name, rest)
    else do
      if looksLikeOption name then options (name :: rest)
      .error (.refused (.noSuchCommand name (Text.similarNames names name)))

/-- The options for the program, the name of a command, and the texts that follow it. -/
def readProgram (store : Store) (texts : List String) :
    Except Halt (Globals × String × List String) :=
  if texts.isEmpty then .error (.bare .program)
  else do
    let (globals, rest) ← readGlobals store texts
    let (name, args) ← chosen ["info", "logs", "generate", "diagrams"]
      (fun texts => (readGlobals store texts).map fun _ => ()) rest
    return (globals, name, args)

/-- Arguments after which nothing follows that has not been read. -/
def complete (rest : List String) : Except Halt Unit :=
  if rest.isEmpty then .ok () else .error (.refused (.extraArguments rest))

/-- The model that a command is about, and the texts that follow it. -/
def readModel (store : Store) : List String → Except Halt (Path × List String)
  | [] => .error (.refused (.missingArgument "MODEL_FILE"))
  | text :: rest => do
    return (← existingFile store "'MODEL_FILE'" text, rest)

/-- The options of the command that generates. -/
def generateForms : List OptionForm := [⟨"--stdout", none, false⟩, ⟨"--strict", none, false⟩]

/-- The command with a name and its arguments. -/
def readCommand (store : Store) (name : String) (texts : List String) : Except Halt Command :=
  match name with
  | "info" => do
    let a ← readArguments .info [] true texts
    complete a.positional
    return .info
  | "logs" =>
    if texts.isEmpty then .error (.bare .logs)
    else do
      let a ← readArguments .logs [] false texts
      let (_, rest) ← chosen ["show"]
        (fun texts => (readArguments .logs [] false texts).map fun _ => ()) a.positional
      let a ← readArguments .showLog [] true rest
      complete a.positional
      return .showLog
  | "generate" => do
    let a ← readArguments .generate generateForms true texts
    let (model, rest) ← readModel store a.positional
    let (directory, rest) ← match rest with
      | [] => pure (none, [])
      | text :: rest => do
        let path ← possibleDirectory store "'[OUTPUT_DIR]'" text
        pure (some path, rest)
    complete rest
    return .generate model directory (a.gives "--stdout") (a.gives "--strict")
  | _ => do
    let a ← readArguments .diagrams [] true texts
    let (model, rest) ← readModel store a.positional
    complete rest
    return .diagrams model

end RoleSchema.CommandLine
