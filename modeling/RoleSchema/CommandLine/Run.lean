import RoleSchema.CommandLine.Help
import RoleSchema.Generation
import RoleSchema.Listing
import RoleSchema.Report.Log
import RoleSchema.Report.Markup
import RoleSchema.Settings.Load

/-!
# Runs

A run reads its command line, loads the settings, sets up the log, and does what the command says.
`run` is a function of the arguments, the variables of the environment, the files and the time; its
outcome holds all that the run prints and leaves behind.
-/

namespace RoleSchema.CommandLine

open Files (FileFault Path Store)

/-- The version of the program. -/
def programVersion : String := "0.1.0"

/-- Why a run breaks off. -/
inductive RunFault where
  | arguments (fault : FileFault)
  | loading (fault : Settings.LoadFault)
  | logging (fault : LogFault)
  | generation (fault : GenerationFault)
  /-- A text for the console has tags that cannot be shown. -/
  | markup (fault : Markup.Fault)

/-- The wording of a fault. -/
def RunFault.message : RunFault → String
  | .arguments fault => fault.message
  | .loading fault => fault.message
  | .logging fault => fault.message
  | .generation fault => fault.message
  | .markup fault => fault.message

/-- How a run ends. -/
inductive Ending where
  | done
  /-- Findings were recorded where none are allowed. -/
  | failed
  /-- The model cannot be read. -/
  | aborted
  | bare (page : Page)
  | refused (problem : UsageProblem)
  | misconfigured (fault : Settings.LoadFault)
  | broken (fault : RunFault)

/-- The exit status of a run. -/
def Ending.status : Ending → Nat
  | .done => 0
  | .bare _ | .refused _ => 2
  | _ => 1

/-- What a run starts from. -/
structure Start where
  arguments : List String
  vars : Variables
  store : Store
  now : Moment
  /-- Whether the console is a terminal. -/
  terminal : Bool := false
  /-- Whether reports are drawn; a console that only records them takes every text. -/
  drawn : Bool := true
  /-- The version of what the program runs on. -/
  runtime : String

/-- What a run comes to. -/
structure Outcome where
  ending : Ending
  /-- The text of the output. -/
  output : String := ""
  /-- What is printed on the console. -/
  printed : List Printed := []
  /-- The lines about settings, and those of the log, on the console. -/
  lines : List String := []
  store : Store

/-! ## Reports -/

/-- The cells of a diagnostic. -/
def diagnosticRow (d : Diagnostic) : List String :=
  let style := match d.severity with
    | .error => "red"
    | .warning => "yellow"
  [Markup.styled style d.severity.text, d.code, d.element.getD "", d.message]

/-- The report of what was found. -/
def diagnosticsReport (ds : List Diagnostic) : Printed :=
  if ds.isEmpty then .line (Markup.styled "green" "✅ No diagnostics")
  else .table ⟨"Diagnostics", ["Severity", "Code", "Element", "Message"], ds.map diagnosticRow⟩

/-- The report of the schemas that were written. -/
def writtenReport (model : Path) (g : Generation) : Printed :=
  .table ⟨"Rel schemas from " ++ model.name, ["Concept", "Diagram", "File"],
    (g.artifacts.zip g.written).map fun (a, path) => [a.concept, a.diagram, path.text]⟩

/-- The cell for the concept of a diagram. -/
def conceptCell : Prospect → String
  | .schema concept _ => concept
  | _ => "-"

/-- The cell for the output of a diagram. -/
def outputCell : Prospect → String
  | .skipped => Markup.styled "dim" "skipped"
  | .unresolved => Markup.styled "red" "unresolved"
  | .schema _ filename => filename

/-- The cells of a diagram in the listing. -/
def listingRow (d : ListedDiagram) : List String :=
  [d.name, conceptCell d.prospect, toString d.factTypes, outputCell d.prospect]

/-- The table of the diagrams of a model. -/
def listingTable (model : Path) (ds : List ListedDiagram) : Table where
  title := "Diagrams in " ++ model.name
  columns := ["Diagram", "Concept", "Fact types", "Output"]
  rows := ds.map listingRow

/-- The report of a model that cannot be read. -/
def unreadReport (fault : ReadFault) : Printed :=
  .line ("❌ " ++ Markup.styled "bold red" fault.message)

/-! ## Commands -/

/-- What a command finds when it is run. -/
structure Context where
  start : Start
  globals : Globals
  settings : Settings
  log : Log
  store : Store

/-- What a command shows. -/
structure Shown where
  ending : Ending := .done
  output : String := ""
  printed : List Printed := []

/-- Prints a report; one that is to be drawn and cannot be shown ends the run. -/
def Start.print (s : Start) (shown : Shown) (p : Printed) : Except Shown Shown :=
  match if s.drawn then p.fault? else none with
  | some fault => .error { shown with ending := .broken (.markup fault) }
  | none => .ok { shown with printed := shown.printed ++ [p] }

/-- What is shown once reports have been printed. -/
def Start.printed (s : Start) (shown : Shown) (ps : List Printed) : Shown :=
  match ps.foldlM s.print shown with
  | .ok shown => shown
  | .error shown => shown

/-- The name of a name space as it is shown, with a mark if it is not the default. -/
def namespaceLine (entry default : String × String) : String :=
  "  " ++ entry.1 ++ ": " ++ entry.2 ++ (if entry.2 = default.2 then "" else " (custom)") ++ "\n"

namespace Context

variable (c : Context)

/-- What the command for information prints. -/
def information : String :=
  let s := c.settings
  let facts :=
    ["ormrel version: " ++ programVersion, "Python version: " ++ c.start.runtime,
      "Environment: " ++ c.globals.environment,
      "Configuration file: " ++ (c.globals.config.map Path.text).getD "auto",
      "Output directory: " ++ s.generator.outputDir.text,
      "Filename template: " ++ s.generator.filenameTemplate, "", "ORM namespaces:"]
  String.join (facts.map (· ++ "\n") ++
    s.namespaces.entries.zipWith namespaceLine ({} : Namespaces).entries)

/-- What is printed about the log. -/
def logReport : List Printed :=
  (c.log.description ++ (c.log.size? c.store).toList).map .line

/-- What a command shows once its findings are known; they are reported, and if they are not allowed
the run fails. -/
def concluded (strict : Bool) (ds : List Diagnostic) (shown : Shown) :
    Reporting GenerationFault Shown :=
  match c.start.print shown (diagnosticsReport ds) with
  | .error shown => pure shown
  | .ok shown =>
    if strict && !ds.isEmpty then do
      Reporting.note .error (toString ds.length ++ " diagnostic(s) recorded in strict mode")
      return { shown with ending := .failed }
    else return shown

/-- Goes on after a model that cannot be read: that is reported. -/
def unreadable (fault : GenerationFault) : Reporting GenerationFault Shown :=
  match fault with
  | .reading f =>
    if f.isOfDocument then pure (c.start.printed { ending := .aborted } [unreadReport f])
    else Reporting.fail fault
  | _ => Reporting.fail fault

/-- Prints the schemas of a model. -/
def generateToOutput (model : Path) (strict : Bool) : Reporting GenerationFault Shown :=
  let artifacts := artifactsOf c.settings c.store model
  (do c.concluded strict artifacts.diagnostics { output := textListing (← artifacts) }).recover
    c.unreadable

/-- What a command shows once schemas have been written: they are reported, and then the findings. -/
def reportWritten (model : Path) (strict : Bool) (ds : List Diagnostic) (g : Generation) :
    Reporting GenerationFault Shown :=
  match c.start.print {} (writtenReport model g) with
  | .error shown => pure shown
  | .ok shown => c.concluded strict ds shown

/-- Writes the schemas of a model. -/
def generateToFiles (model : Path) (directory : Option Path) (strict : Bool) :
    Stored GenerationFault Shown :=
  let stored := generate c.settings c.store model directory
  let shown := stored.report >>= c.reportWritten model strict stored.report.diagnostics
  ⟨stored.store, shown.recover c.unreadable⟩

/-- Lists the diagrams of a model. -/
def listDiagrams (path : Path) : Reporting GenerationFault Shown :=
  let shown : Reporting GenerationFault Shown := do
    let model ← (Source.model (.file path) c.settings.namespaces c.store).mapFault .reading
    let listing := model.listing c.settings.generator.filenameTemplate
    let ds ← Reporting.ofExcept (listing.mapError fun f => .forming (.template f))
    return c.start.printed {} [.table (listingTable path ds)]
  shown.recover c.unreadable

/-- Runs a command. -/
def perform : Command → Stored GenerationFault Shown
  | .info => ⟨c.store, pure { output := c.information }⟩
  | .showLog => ⟨c.store, pure (c.start.printed {} c.logReport)⟩
  | .generate model _ true strict => ⟨c.store, c.generateToOutput model strict⟩
  | .generate model directory false strict => c.generateToFiles model directory strict
  | .diagrams model => ⟨c.store, c.listDiagrams model⟩

/-- The origin of what is reported in a run. -/
def origin : Origin := ⟨"ormrel.cli:run", none⟩

/-- Reported events as messages for the log. -/
def messages (events : List Event) : List Message :=
  events.map fun e => ⟨e.level, e.text, origin⟩

/-- What a command that has been run comes to; what it has reported is logged. -/
def outcome (performed : Stored GenerationFault Shown) : Outcome :=
  let (store, lines) :=
    c.log.writtenAll c.start.now performed.store (messages performed.report.events)
  match performed.report.result with
  | .ok shown => ⟨shown.ending, shown.output, shown.printed, lines, store⟩
  | .error fault => { ending := .broken (.generation fault), lines, store }

/-- The message that tells that a run has begun. -/
def begun : Message where
  level := .debug
  text := "ormrel CLI started (environment: " ++ c.globals.environment ++ ", config=" ++
    (c.globals.config.map Path.text).getD "None" ++ ")"
  origin := origin

end Context

/-! ## Runs -/

/-- The outcome of a command line that comes to no command. -/
def Halt.outcome (store : Store) : Halt → Outcome
  | .help page => { ending := .done, output := page.text, store }
  | .version => { ending := .done, output := "ormrel, version " ++ programVersion ++ "\n", store }
  | .bare page => { ending := .bare page, store }
  | .refused problem => { ending := .refused problem, store }
  | .broken fault => { ending := .broken (.arguments fault), store }

/-- Runs the command of a command line, the arguments of which are still to be read. -/
def Context.run (c : Context) (name : String) (texts : List String) : Outcome :=
  if c.globals.logInfo then
    let shown := c.start.printed {} c.logReport
    { ending := shown.ending, printed := shown.printed, store := c.store }
  else
    let (store, lines) := c.log.written c.start.now c.store c.begun
    let c := { c with store }
    let o := match readCommand store name texts with
      | .error halt => halt.outcome store
      | .ok command => c.outcome (c.perform command)
    { o with lines := lines ++ o.lines }

/-- Sets up the log and runs the command. -/
def runWith (s : Start) (globals : Globals) (settings : Settings) (name : String)
    (texts : List String) : Outcome :=
  let step := Log.setUp { terminal := s.terminal } s.now s.store
    { verbose := globals.verbose, file := globals.logFile, settings := settings.general
      environment := globals.environment }
  match step.fault with
  | some fault => { ending := .broken (.logging fault), lines := step.lines, store := step.store }
  | none =>
    let o := Context.run ⟨s, globals, settings, step.log, step.store⟩ name texts
    { o with lines := step.lines ++ o.lines }

/-- Lines with tags as they are shown, up to one that cannot be shown. -/
def shownLines : List String → List String × Option Markup.Fault
  | [] => ([], none)
  | line :: rest =>
    match Markup.rendered line with
    | .error fault => ([], some fault)
    | .ok text =>
      let (others, fault) := shownLines rest
      (text :: others, fault)

/-- The outcome of a run whose settings cannot be loaded. What is wrong with the settings themselves
is told on the output. -/
def unsettled (store : Store) (fault : Settings.LoadFault) : Outcome :=
  if fault.isExpected then
    match Markup.rendered ("[red]Configuration error: " ++ fault.message ++ "[/red]") with
    | .ok text => { ending := .misconfigured fault, output := text ++ "\n", store }
    | .error f => { ending := .broken (.markup f), store }
  else { ending := .broken (.loading fault), store }

/-- A run of the program. -/
def run (s : Start) : Outcome :=
  match readProgram s.store s.arguments with
  | .error halt => halt.outcome s.store
  | .ok (globals, name, texts) =>
    let loading := Settings.load s.store s.vars globals.config globals.environment
    let told := if globals.verbose then loading.events.map Event.text else []
    let (lines, fault) := shownLines told
    let o : Outcome := match fault, loading.result with
      | some fault, _ => { ending := .broken (.markup fault), store := s.store }
      | none, .ok settings => runWith s globals settings name texts
      | none, .error fault => unsettled s.store fault
    { o with lines := lines ++ o.lines }

end RoleSchema.CommandLine
