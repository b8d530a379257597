import RoleSchema.Files.Store
import RoleSchema.Report.Console
import RoleSchema.Report.LogFile
import RoleSchema.Report.Table
import RoleSchema.Settings.Basic

/-!
# Logs

A log shows messages on the console and writes them to a file, as far as they are as severe as its
level. It is set up from settings, and a second time only if that is forced. Setting up fails when
the file cannot be named or opened; what has been changed by then stays.
-/

namespace RoleSchema

open Files (Path Store)
open Text (TemplateFault)

/-- A log. -/
structure Log where
  /-- Whether the console is a terminal. -/
  terminal : Bool := false
  configured : Bool := false
  level : Level := .info
  environment : String := "development"
  /-- The log file that was asked for. -/
  file : Option Path := none
  /-- How messages are shown, once they are. -/
  console : Option ConsoleStyle := none
  /-- The file that messages are written to. -/
  sink : Option Path := none
  deriving Repr

/-- Why an operation on a log fails. -/
inductive LogFault where
  /-- The template of the settings cannot be filled. -/
  | template (fault : TemplateFault)
  | file (fault : LogFileFault)
  /-- There is no level of a name. -/
  | level (name : String)
  deriving DecidableEq, Repr

/-- The wording of a fault. -/
def LogFault.message : LogFault → String
  | .template fault => fault.message
  | .file fault => fault.message
  | .level name => "Level '" ++ name ++ "' does not exist"

namespace Log

/-- What a log is set up with. -/
structure Request where
  /-- Whether all from debugging on is logged, in detail. -/
  verbose : Bool := false
  /-- The log file, in place of that of the settings. -/
  file : Option Path := none
  settings : Settings.General := {}
  environment : String := "development"
  /-- Whether a log that is set up is set up anew. -/
  force : Bool := false

/-- A log after an operation, with what the operation has changed and shown. -/
structure Step where
  log : Log
  store : Store
  /-- The lines on the console. -/
  lines : List String := []
  fault : Option LogFault := none

/-! ## Messages -/

/-- Whether messages of a level are logged. -/
def admits (log : Log) (l : Level) : Bool := log.level.severity ≤ l.severity

/-- The store after a line was added to the file of the log; a file that cannot be written is left
alone. -/
def filed (log : Log) (line : String) (store : Store) : Store :=
  match log.sink with
  | none => store
  | some path => ((store.append path line.toUTF8.toList).toOption).getD store

/-- Logs a message. -/
def written (log : Log) (now : Moment) (store : Store) (m : Message) : Store × List String :=
  if log.admits m.level then
    (log.filed (m.fileLine now) store, (log.console.map fun c => c.line now m).toList)
  else (store, [])

/-- Logs a text under the name of a level; a name is looked up only once messages are shown. -/
def logged (log : Log) (now : Moment) (store : Store) (level text : String) (origin : Origin) :
    Step :=
  match Level.ofName? level with
  | some l =>
    let (store, lines) := log.written now store ⟨l, text, origin⟩
    { log, store, lines }
  | none => { log, store, fault := if log.console.isSome then some (.level level) else none }

/-- Logs messages in their order. -/
def writtenAll (log : Log) (now : Moment) (store : Store) : List Message → Store × List String
  | [] => (store, [])
  | m :: rest =>
    let (store, lines) := log.written now store m
    let (store, others) := writtenAll log now store rest
    (store, lines ++ others)

/-! ## What a log is like -/

/-- What is told about a log. -/
def description (log : Log) : List String :=
  ["[bold]Logging Configuration:[/bold]", "  Environment: " ++ log.environment,
    "  Level: " ++ log.level.name, "  Log file: " ++ (log.file.map Path.text).getD "None"]

/-- A number of bytes in mebibytes, to two places; a half goes to the even neighbour. -/
def megabytes (bytes : Nat) : String :=
  let unit := 1024 * 1024
  let whole := bytes * 100 / unit
  let rest := bytes * 100 % unit
  let hundredths :=
    if 2 * rest < unit || (2 * rest == unit && whole % 2 == 0) then whole else whole + 1
  toString (hundredths / 100) ++ "." ++ padded 2 (hundredths % 100)

/-- What is told about the size of the log file, where there is one. -/
def size? (log : Log) (store : Store) : Option String :=
  match log.file.map store.status with
  | some (.file bytes) => some ("  File size: " ++ megabytes bytes.length ++ " MB")
  | _ => none

/-! ## Setting up -/

/-- The message that tells that a log is set up. -/
def ready (log : Log) : Message where
  level := .debug
  text := "ormrel logging initialized (level=" ++ log.level.name ++ ", env=" ++ log.environment ++
    ", file=" ++ (log.file.map Path.text).getD "None" ++ ")"
  origin := ⟨"ormrel.utils.logging:setup", none⟩

/-- The log that is set up and tells so. -/
def announced (log : Log) (now : Moment) (store : Store) : Step :=
  let log := { log with configured := true }
  let (store, lines) := log.written now store log.ready
  { log, store, lines }

/-- How a request asks for messages to be shown. -/
def Request.style (r : Request) (terminal : Bool) : ConsoleStyle :=
  let c := r.settings.logging.console
  ⟨terminal, r.verbose || c.format = .detailed, c.showTime, c.showPath⟩

/-- The file that a request asks for, at a path: what the settings say about files goes with
theirs. -/
def Request.logFile (r : Request) (path : Path) : LogFile :=
  let f := r.settings.logging.file
  if r.file.isSome then { path } else ⟨path, f.rotation, f.retention, f.compression⟩

/-- Sets up a log. -/
def setUp (log : Log) (now : Moment) (store : Store) (r : Request) : Step :=
  if log.configured && !r.force then { log, store }
  else
    let log := { log with environment := r.environment }
    match r.settings.logging.file.activePath r.environment now with
    | .error fault => { log, store, fault := some (.template fault) }
    | .ok path =>
      let log :=
        { log with
          level := if r.verbose then .debug else r.settings.logLevel
          file := r.file.or path
          console := some (r.style log.terminal)
          sink := none }
      match log.file with
      | none => log.announced now store
      | some path =>
        match (r.logFile path).opened now store with
        | (store, .error fault) => { log, store, fault := some (.file fault) }
        | (store, .ok sink) => { log with sink := some sink }.announced now store

end Log

end RoleSchema
