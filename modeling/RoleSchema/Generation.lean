import RoleSchema.Model.Document
import RoleSchema.Schema

/-!
# Generation

The schemas of a model document are written into a directory, each into a file of its name. A file
is made empty before its text is encoded, so a text without an encoding leaves an empty file. What a
run has changed in the store stays when it fails.
-/

namespace RoleSchema

open Files (Path Store FileFault)
open Text (Encoding)

/-- Why schemas cannot be generated. -/
inductive GenerationFault where
  | reading (fault : ReadFault)
  | forming (fault : SchemaFault)
  | storing (fault : FileFault)
  | encoding (fault : Encoding.Unencodable)
  deriving DecidableEq, Repr

/-- The wording of a fault. -/
def GenerationFault.message : GenerationFault → String
  | .reading fault => fault.message
  | .forming fault => fault.message
  | .storing fault => fault.message
  | .encoding fault => fault.message

/-- What a run has left in the store, and its report. -/
structure Stored (ε α : Type) where
  store : Store
  report : Reporting ε α

/-- What has been generated: the schemas and where they were written. -/
structure Generation where
  artifacts : List Artifact
  written : List Path
  deriving DecidableEq, Repr

/-- Writes schemas into a directory that is there. -/
def writeEach (encoding : Encoding) (directory : Path) (store : Store) :
    List Artifact → Stored GenerationFault (List Path)
  | [] => ⟨store, pure []⟩
  | a :: rest =>
    let path := directory / a.filename
    match store.write path [] with
    | .error fault => ⟨store, Reporting.fail (.storing fault)⟩
    | .ok emptied =>
      match encoding.encode a.text with
      | .error fault => ⟨emptied, Reporting.fail (.encoding fault)⟩
      | .ok bytes =>
        match emptied.write path bytes with
        | .error fault => ⟨emptied, Reporting.fail (.storing fault)⟩
        | .ok filled =>
          let others := writeEach encoding directory filled rest
          ⟨others.store, do
            Reporting.note .info ("Wrote " ++ path.text ++ " (diagram '" ++ a.diagram ++ "')")
            return path :: (← others.report)⟩

/-- Writes schemas into a directory, which is made if it is missing. -/
def writeArtifacts (encoding : Encoding) (directory : Path) (store : Store)
    (artifacts : List Artifact) : Stored GenerationFault (List Path) :=
  match store.makeDirectories directory with
  | .error fault => ⟨store, Reporting.fail (.storing fault)⟩
  | .ok store => writeEach encoding directory store artifacts

/-- Reads the model of a document and builds its schemas. -/
def artifactsOf (settings : Settings) (store : Store) (document : Path) :
    Reporting GenerationFault (List Artifact) := do
  let model ← (Source.model (.file document) settings.namespaces store).mapFault .reading
  (model.schemas settings.generator.filenameTemplate).mapFault .forming

/-- Generates the schemas of a document into a directory, or into that of the settings. -/
def generate (settings : Settings) (store : Store) (document : Path) (directory : Option Path) :
    Stored GenerationFault Generation :=
  let directory := directory.getD settings.generator.outputDir
  let artifacts : Reporting GenerationFault (List Artifact) := do
    Reporting.note .info ("Generating schemas for: " ++ document.text ++ " in " ++ directory.text)
    artifactsOf settings store document
  match artifacts.result with
  | .error fault => ⟨store, ⟨artifacts.events, .error fault⟩⟩
  | .ok built =>
    let stored := writeArtifacts settings.generator.encoding.encoding directory store built
    let findings := (artifacts.diagnostics ++ stored.report.diagnostics).length
    ⟨stored.store, do
      let _ ← artifacts
      let written ← stored.report
      Reporting.note .info ("Generated " ++ toString written.length ++ " schema file(s) with " ++
        toString findings ++ " diagnostic(s)")
      return ⟨built, written⟩⟩

end RoleSchema
