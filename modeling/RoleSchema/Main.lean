import RoleSchema.CommandLine.Run
import Std.Time.Zoned

/-!
# The program

Reads what a run starts from, runs it, and prints and writes what the run comes to. A run is tried
on the files it may read; when it is about to change others, these are looked up and it is tried
again.
-/

namespace RoleSchema.Program

open CommandLine (Start Outcome Ending)
open Files (Path Place Store)

/-- The text of a place. -/
def textAt (place : Place) : String := "/" ++ "/".intercalate place

/-- The places above a place, and itself. -/
def prefixesOf (place : Place) : List Place :=
  (List.range place.length).map fun n => place.take (n + 1)

/-- The place that a path leads to, however the directories on the way are. -/
def placeOf (here : Place) (p : Path) : Place :=
  p.parts.foldl (fun place part => if part = ".." then place.dropLast else place ++ [part])
    (match p.root with
      | .relative => here
      | _ => [])

/-- Looks up what is at a place. -/
def lookUp (store : Store) (place : Place) : IO Store := do
  if store.hasDirectory place || (store.file? place).isSome then return store
  try
    let bytes ← IO.FS.readBinFile (textAt place)
    return { store with files := store.files ++ [(place, bytes.toList)] }
  catch
    | .inappropriateType .. => return { store with directories := store.directories ++ [place] }
    | _ => return store

/-- Looks up places and those above them. -/
def lookUpAll (store : Store) (places : List Place) : IO Store :=
  (places.flatMap prefixesOf).eraseDups.foldlM lookUp store

/-- The variables of the environment. -/
def readVariables : IO Variables := do
  let bytes ← IO.FS.readBinFile "/proc/self/environ"
  let text := (String.fromUTF8? bytes).getD ""
  return (Text.splitOn '\x00' text.toList).foldl (fun vs entry =>
    match entry.dropWhile (· ≠ '=') with
    | _ :: value =>
      vs.set (String.ofList (entry.takeWhile (· ≠ '='))) (String.ofList value)
    | [] => vs) []

/-- The time. -/
def readNow : IO Moment := do
  let t ← Std.Time.PlainDateTime.now
  return {
    day := ⟨t.date.year.toInt.toNat, t.date.month.val.toNat, t.date.day.val.toNat⟩
    hour := t.time.hour.val.toNat
    minute := t.time.minute.val.toNat
    second := t.time.second.val.toNat
    microsecond := t.time.nanosecond.val.toNat / 1000 }

/-- The paths that an argument may hold: the whole, what follows `=`, and what follows a letter. -/
def pathsIn (argument : String) : List Path :=
  let cs := argument.toList
  [cs, (cs.dropWhile (· ≠ '=')).drop 1, cs.drop 2].map fun t => Path.ofText (String.ofList t)

/-- The places that a run may read. -/
def readPlaces (s : Start) : List Place :=
  let given := s.arguments.flatMap pathsIn
  let environments := (CommandLine.environments.map Prod.snd).eraseDups
  let layers := (none :: given.map some).flatMap fun config =>
    environments.flatMap (Settings.environmentPaths config)
  let sought := ((Settings.basePaths s.vars).toOption).getD []
  (given ++ sought ++ layers).map (placeOf s.store.here)

/-- The places that differ between two stores. -/
def changedPlaces (old new : Store) : List Place :=
  (new.files.filter fun f => old.file? f.1 != some f.2).map Prod.fst ++
    new.directories.filter fun d => !old.hasDirectory d

/-- Tries a run, up to some times, until all that it changes has been looked up. -/
def settle (s : Start) (known : List Place) : Nat → IO (Start × Outcome)
  | 0 => return (s, CommandLine.run s)
  | n + 1 => do
    let o := CommandLine.run s
    let unknown := (changedPlaces s.store o.store).filter fun p => !known.contains p
    if unknown.isEmpty then return (s, o)
    let store ← lookUpAll s.store unknown
    settle { s with store } (known ++ unknown) n

/-- Writes what a run has changed. -/
def commit (old new : Store) : IO Unit := do
  for d in new.directories do
    if !old.hasDirectory d then IO.FS.createDirAll (textAt d)
  for (place, bytes) in new.files do
    if old.file? place != some bytes then
      IO.FS.writeBinFile (textAt place) ⟨bytes.toArray⟩

/-- What is said about the end of a run: on the output, and on the console. -/
def closing : Ending → String × String
  | .done | .failed | .misconfigured _ => ("", "")
  | .aborted => ("", "Aborted!\n")
  | .bare page => ("", page.text)
  | .refused problem => ("", "Error: " ++ problem.message ++ "\n")
  | .broken fault => ("", "Error: " ++ fault.message ++ "\n")

/-- Prints what a run comes to. -/
def display (o : Outcome) : IO Unit := do
  let (output, console) := closing o.ending
  let reports := o.printed.filterMap fun p => p.shown.toOption
  for line in o.lines ++ reports.flatMap Printed.lines do
    IO.eprintln line
  IO.eprint console
  IO.print (o.output ++ output)

/-- What a run starts from. -/
def readStart (arguments : List String) : IO Start := do
  let here := (Text.splitOn '/' (toString (← IO.currentDir)).toList).filterMap fun piece =>
    if Files.isPart piece then some (String.ofList piece) else none
  let vars ← readVariables
  let terminal ← (← IO.getStderr).isTty
  let s : Start :=
    { arguments, vars, terminal, now := ← readNow, runtime := "none"
      store := { directories := prefixesOf here, here } }
  return { s with store := ← lookUpAll s.store (readPlaces s) }

end RoleSchema.Program

/-- The program. -/
def main (arguments : List String) : IO UInt32 := do
  let start ← RoleSchema.Program.readStart arguments
  let (start, outcome) ← RoleSchema.Program.settle start [] 4
  RoleSchema.Program.commit start.store outcome.store
  RoleSchema.Program.display outcome
  return outcome.ending.status.toUInt32
