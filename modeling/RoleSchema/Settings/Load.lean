import RoleSchema.Settings.Layer

/-!
# Settings in files

Settings are loaded from a base file, the file for the environment that the program runs in, and the
variables of the environment. Loading reports a note for each file it reads and each key it binds.

* `Settings.load`: the settings of a run.
-/

namespace RoleSchema.Settings

open Files (Path Store)

/-- The documents of a file. -/
def documentsAt (store : Store) (path : Path) : Except LoadFault Yaml.Documents := do
  let bytes ← (store.read path).mapError .unreadable
  (Yaml.Source.ofBytes bytes).documents.mapError (.unparsed path)

/-- The home directory as it is set, without the slashes at its end; one that begins with a tilde
would have to be told from itself. -/
def homeDirectory (home : String) : Except LoadFault Path :=
  let text := (home.toList.reverse.dropWhile (· = '/')).reverse
  if text.head? = some '~' then .error .homeless
  else if text.isEmpty then .ok ⟨.absolute, []⟩
  else .ok (Path.ofText (String.ofList text))

/-- Where the base file is sought, in this order. -/
def basePaths (vars : Variables) : Except LoadFault (List Path) := do
  let atHome ← match vars.lookup "HOME" with
    | none => pure []
    | some home => do pure [(← homeDirectory home) / ".config/ormrel/config.yaml"]
  return [Path.ofText "config/ormrel_config.yaml", Path.ofText "config/config.yaml"] ++ atHome

/-- Whether there is something at a path. -/
def isThere (store : Store) (path : Path) : Except LoadFault Bool :=
  (store.pathExists path).mapError .unreadable

/-- The first of some paths at which there is something. -/
def firstThere (store : Store) : List Path → Except LoadFault (Option Path)
  | [] => .ok none
  | path :: rest => do
    if ← isThere store path then return some path else firstThere store rest

/-- The base file: the one that is given, or the first of those that are sought. -/
def basePath (store : Store) (vars : Variables) (given : Option Path) :
    Except LoadFault (Option Path) :=
  match given with
  | some path => do
    if ← isThere store path then return some path else throw (.missing path)
  | none => do firstThere store (← basePaths vars)

/-- What the base file comes to. -/
def loadBase (store : Store) (vars : Variables) (given : Option Path) :
    Reporting LoadFault Draft := do
  match ← Reporting.ofExcept (basePath store vars given) with
  | none =>
    tell (lineMark ++ "No configuration file found, using defaults")
    return .tree (.mapping [])
  | some path =>
    tell (lineMark ++ "Loading base config: " ++ path.text)
    Draft.base path (← Reporting.ofExcept (documentsAt store path))

/-- Where the document for an environment is sought, in this order. -/
def environmentPaths (given : Option Path) (environment : String) : List Path :=
  let directory := (given.map Path.parent).getD (Path.ofText "config")
  [directory / "environments" / (environment ++ ".yaml"),
    directory / "environments" / (environment ++ ".yml"),
    directory / (environment ++ ".yaml"), directory / (environment ++ ".yml")]

/-- The document for an environment: the first one in the first file in which it says something. -/
def loadEnvironment (store : Store) (environment : String) :
    List Path → Reporting LoadFault (Option Draft)
  | [] => do
    tell ("⚠️  No environment config found for '" ++ environment ++ "'")
    return none
  | path :: rest => do
    if ← Reporting.ofExcept (isThere store path) then
      tell (lineMark ++ "Loading environment config: " ++ path.text)
      let documents ← Reporting.ofExcept (documentsAt store path)
      match (Draft.first? documents).filter fun d => !d.isEmpty with
      | some d => return some d
      | none =>
        tell ("[yellow]⚠️  Environment config is empty: " ++ path.text ++ "[/yellow]")
        loadEnvironment store environment rest
    else loadEnvironment store environment rest

/-- The settings of a run in an environment; the base file may be given. -/
def load (store : Store) (vars : Variables) (given : Option Path) (environment : String) :
    Reporting LoadFault Settings := do
  let base ← loadBase store vars given
  let document ← loadEnvironment store environment (environmentPaths given environment)
  base.layered store.codecs document vars

end RoleSchema.Settings
