import RoleSchema.Schema

/-!
# Listings

What becomes of each diagram of a model: it is skipped, its concept is not resolved, or it has a
schema in a file. The listing says so without building the schemas; the text listing joins those
that have been built.
-/

namespace RoleSchema

/-- What becomes of a diagram. -/
inductive Prospect where
  | skipped
  | unresolved
  | schema (concept filename : String)
  deriving DecidableEq, Repr

/-- A diagram of a listing. -/
structure ListedDiagram where
  name : String
  /-- How many fact types are on the diagram. -/
  factTypes : Nat
  prospect : Prospect
  deriving DecidableEq, Repr

namespace Model

variable (m : Model)

/-- What becomes of a diagram. -/
def prospect (template : String) (d : Diagram) : Except Text.TemplateFault Prospect :=
  match conceptToken d.name, m.centralConcept d with
  | none, _ => .ok .skipped
  | some _, none => .ok .unresolved
  | some _, some e => (filenameFor template e.name).map (.schema e.name)

/-- A diagram with what becomes of it. -/
def listed (template : String) (d : Diagram) : Except Text.TemplateFault ListedDiagram :=
  (m.prospect template d).map fun p => ⟨d.name, (m.factTypesInDiagram d).length, p⟩

/-- The listing of all diagrams, in their order. -/
def listing (template : String) : Except Text.TemplateFault (List ListedDiagram) :=
  m.diagrams.mapM (m.listed template)

end Model

/-- A schema after a line with its file name. -/
def Artifact.listed (a : Artifact) : String := "// " ++ a.filename ++ "\n" ++ a.text

/-- Schemas one after another, each after a line with its file name. -/
def textListing (artifacts : List Artifact) : String := String.join (artifacts.map Artifact.listed)

end RoleSchema
