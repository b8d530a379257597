import RoleSchema.Relation.Constraint
import RoleSchema.Hierarchy
import RoleSchema.Concept

/-!
# Schemas

Every diagram about a concept becomes one schema: the clauses that place the concept and its
subtypes, then a section for each fact type on the diagram and for the one that identifies the
concept. A fact type whose clauses cannot be formed leaves an empty section and a diagnostic.
-/

namespace RoleSchema

open RoleSchema.Rel (headerLine sectionLines)

/-- The schema of a concept. -/
structure Artifact where
  concept : String
  diagram : String
  filename : String
  lines : List String
  deriving DecidableEq, Repr

/-- The text of a schema: every line is ended by a line feed. -/
def Artifact.text (a : Artifact) : String := "\n".intercalate a.lines ++ "\n"

/-! ## Findings -/

namespace Diagnostic

/-- A relation without columns. -/
def emptyRelation (f : FactType) (fault : Rel.EmissionFault) : Diagnostic where
  severity := .error
  code := "empty-relation"
  message := "Fact type '" ++ f.name ++ "': " ++ fault.message
  element := f.id

/-- A fact type that lacks what its relations need. -/
def malformedFactType (f : FactType) (fault : NamingFault) : Diagnostic where
  severity := .error
  code := "malformed-fact-type"
  message := "Fact type '" ++ f.name ++ "': " ++ fault.message
  element := f.id

/-- A diagram that is named like one about a concept and has none. -/
def unresolvedConcept (d : Diagram) (fault : ConceptFault) : Diagnostic where
  severity := .error
  code := "unresolved-concept"
  message := fault.message
  element := d.id

/-- A concept with a reference mode that no fact type realises. -/
def missingIdentifyingFactType (e : ObjectType) : Diagnostic where
  severity := .warning
  code := "missing-identifying-fact-type"
  message := "Concept '" ++ e.name ++ "' has reference mode '" ++ e.referenceMode ++
    "' but no simple identifying fact type"
  element := e.id

/-- Two diagrams whose schemas have one file name. -/
def duplicateArtifact (earlier : String) (d : Diagram) (filename : String) : Diagnostic where
  severity := .warning
  code := "duplicate-artifact"
  message := "Diagrams '" ++ earlier ++ "' and '" ++ d.name ++ "' both produce " ++ filename ++
    ", the later one overwrites the earlier"
  element := d.id

end Diagnostic

/-- The file name of the schema of a concept. -/
def filenameFor (template concept : String) : Except Text.TemplateFault String :=
  Text.fill [("concept", Text.lower concept)] template

/-- The header of the section about a concept. -/
def conceptHeader (concept : String) : String :=
  "Constraints for the '" ++ concept ++ "' concept and its subtypes"

/-- The header of the section about a fact type. -/
def factTypeHeader (f : FactType) : String :=
  "Constraints for relations modeled by the '" ++ f.name ++ "' fact type"

/-- What closes a section that cannot be formed: its header alone, with a diagnostic that names the
fault. A fault in the structure of the model ends the run. -/
def emptySection (f : FactType) : SchemaFault → Reporting SchemaFault (List String)
  | .naming (.notCapitalised name) => do
    Reporting.find (.invalidName (.notCapitalised name) f.id)
    pure [headerLine (factTypeHeader f)]
  | .naming fault => do
    Reporting.find (.malformedFactType f fault)
    pure [headerLine (factTypeHeader f)]
  | .emission fault => do
    Reporting.find (.emptyRelation f fault)
    pure [headerLine (factTypeHeader f)]
  | fault => Reporting.fail fault

namespace Model

variable (m : Model)

/-- The fact types of a schema: those on the diagram, and the one that identifies the concept. -/
def factTypesFor (e : ObjectType) (d : Diagram) : Reporting SchemaFault (List FactType) :=
  let drawn := m.factTypesInDiagram d
  if e.referenceMode = "" then pure drawn
  else
    match m.identifyingFactType e with
    | none => do
      Reporting.find (.missingIdentifyingFactType e)
      pure drawn
    | some f => pure (if drawn.contains f then drawn else drawn ++ [f])

/-- The clauses of a fact type under their header. -/
def factTypeLines (f : FactType) : Reporting SchemaFault (List String) := do
  let clauses ← m.factTypeClauses f
  Reporting.ofExcept ((sectionLines (factTypeHeader f) clauses).mapError .emission)

/-- The section of a fact type. -/
def factTypeSection (f : FactType) : Reporting SchemaFault (List String) :=
  (m.factTypeLines f).recover (emptySection f)

/-- The sections of fact types, each after an empty line. -/
def factTypeSections : List FactType → Reporting SchemaFault (List String)
  | [] => pure []
  | f :: rest => do
    let lines ← m.factTypeSection f
    let others ← factTypeSections rest
    pure ("" :: lines ++ others)

/-- The section that places a concept, after an empty line. -/
def conceptSection (e : ObjectType) (d : Diagram) : Reporting SchemaFault (List String) := do
  let clauses ← m.entityTypeClauses d e
  let lines ← Reporting.ofExcept ((sectionLines (conceptHeader e.name) clauses).mapError .emission)
  pure ("" :: lines)

/-- The schema of a concept on a diagram. -/
def schemaOf (template : String) (e : ObjectType) (d : Diagram) :
    Reporting SchemaFault Artifact := do
  Reporting.note .info ("Generating constraints for concept '" ++ e.name ++ "'")
  let placement ← m.conceptSection e d
  let factTypes ← m.factTypesFor e d
  let sections ← m.factTypeSections factTypes
  let filename ← Reporting.ofExcept ((filenameFor template e.name).mapError .template)
  pure ⟨e.name, d.name, filename, placement ++ sections⟩

/-- The schema of a diagram, if it is about a concept. -/
def schemaFor (template : String) (d : Diagram) : Reporting SchemaFault (Option Artifact) :=
  match conceptToken d.name with
  | none => do
    Reporting.note .debug ("Diagram '" ++ d.name ++ "' is not a concept diagram, skipped")
    pure none
  | some _ =>
    match m.resolveConcept d with
    | .error fault => do
      Reporting.find (.unresolvedConcept d fault)
      pure none
    | .ok e => (m.schemaOf template e d).map some

/-- The schemas of diagrams. `producers` are the file names given so far with the diagram that each
is from, the latest first; a file name given again is reported. -/
def schemasOf (template : String) (producers : List (String × String)) :
    List Diagram → Reporting SchemaFault (List Artifact)
  | [] => pure []
  | d :: rest => do
    match ← m.schemaFor template d with
    | none => schemasOf template producers rest
    | some a => do
      match producers.lookup a.filename with
      | some earlier => Reporting.find (.duplicateArtifact earlier d a.filename)
      | none => pure ()
      let others ← schemasOf template ((a.filename, d.name) :: producers) rest
      pure (a :: others)

/-- The schemas of all diagrams about concepts, in the order of the diagrams. -/
def schemas (template : String) : Reporting SchemaFault (List Artifact) :=
  m.schemasOf template [] m.diagrams

end Model

end RoleSchema
