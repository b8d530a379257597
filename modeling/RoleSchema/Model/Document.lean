import RoleSchema.Files.Store
import RoleSchema.Model.Query
import RoleSchema.Report.Basic
import RoleSchema.Settings.Basic
import RoleSchema.Xml.Document

/-!
# Models in documents

A document holds its model in one element and its diagrams anywhere. `Model.ofDocument` reads the
elements of the model section by section, the position of an element being its place among all
children of its section. A `DocumentReader` opens a document from a file or from a text and reads
the model from it as long as it is open.
-/

namespace RoleSchema

open Files (Path Store FileFault)
open Xml (Element)

/-- Why a model cannot be read. -/
inductive ReadFault where
  /-- Neither a path nor a text is given. -/
  | noSource
  | notOpened
  | missing (path : Path)
  | malformed (complaint : Xml.Complaint)
  | noModel
  | unreadable (fault : FileFault)
  deriving DecidableEq, Repr

/-- The text of a fault. -/
def ReadFault.message : ReadFault → String
  | .noSource => "Either a source path or document text is required"
  | .notOpened => "Document not opened. Use context manager or call open() first."
  | .missing path => "ORM model not found: " ++ path.text
  | .malformed ⟨.unknownEncoding name, _⟩ => (Xml.Problem.unknownEncoding name).message
  | .malformed ⟨.wideEncoding, _⟩ => Xml.Problem.wideEncoding.message
  | .malformed complaint => "Invalid ORM document: " ++ complaint.message
  | .noModel => "Document does not contain an orm:ORMModel element"
  | .unreadable fault => fault.message

/-- Whether a fault is one of the document itself, and not of the way in which it is stored or
encoded. -/
def ReadFault.isOfDocument : ReadFault → Bool
  | .malformed ⟨.unknownEncoding _, _⟩ | .malformed ⟨.wideEncoding, _⟩ => false
  | .missing _ | .malformed _ | .noModel => true
  | _ => false

namespace Namespaces

variable (n : Namespaces)

/-! ## References -/

/-- What the first child with a name refers to. -/
def reference (e : Element) (base : String) : Id :=
  (e.selectFirst? n.orm base).bind fun c => c.attribute? "ref"

/-- What elements refer to, as far as they refer to something. -/
def references (es : List Element) : List Id :=
  (es.map fun e => e.attribute? "ref").filter Id.isGiven

/-- The children of the children with a name. -/
def childrenOf (e : Element) (base : String) : List Element :=
  (e.select n.orm base).flatMap Element.children

/-- The elements that two steps select. -/
def within (e : Element) (first second : String) : List Element :=
  (e.select n.orm first).flatMap fun c => c.select n.orm second

/-- A text attribute, empty where it is not given. -/
def text (e : Element) (base : String) : String := (e.attribute? base).getD ""

/-! ## Elements of a model -/

/-- The children of a section with their positions; none where the section is missing. -/
def sectionOf (model : Element) (base : String) : List (Element × Nat) :=
  match model.selectFirst? n.orm base with
  | some s => s.children.zipIdx
  | none => []

/-- The object type in an element, if it is one. -/
def objectType? (e : Element) (order : Nat) : Option ObjectType :=
  let kind := if e.hasName n.orm "EntityType" then some ObjectKind.entity
    else if e.hasName n.orm "ValueType" then some ObjectKind.value
    else none
  kind.map fun kind =>
    { id := e.attribute? "id"
      name := text e "Name"
      kind
      order
      referenceMode := text e "_ReferenceMode"
      preferredIdentifier := n.reference e "PreferredIdentifier"
      dataType := n.reference e "ConceptualDataType"
      isImplicitBoolean := e.attribute? "IsImplicitBooleanValue" == some "true"
      playedRoles := references (n.childrenOf e "PlayedRoles") }

/-- The fact type in an element. -/
def factType (e : Element) (order : Nat) : FactType where
  id := e.attribute? "id"
  name := text e "_Name"
  roles := (n.within e "FactRoles" "Role").map fun r =>
    ⟨r.attribute? "id", e.attribute? "id", n.reference r "RolePlayer", text r "Name"⟩
  uniquenessIds := references (n.within e "InternalConstraints" "UniquenessConstraint")
  mandatoryIds := references (n.within e "InternalConstraints" "MandatoryConstraint")
  order := order

/-- A warning that a subtype fact is left out. -/
def leftOut {ε : Type} (e : Element) (what : String) : Reporting ε (Option SubtypeFact) := do
  Reporting.note .warning
    ("Subtype fact " ++ Id.text (e.attribute? "id") ++ " lacks " ++ what ++ ", ignored")
  return none

/-- The subtype fact in an element, unless its roles or their players are missing. -/
def subtypeFact? {ε : Type} (e : Element) (order : Nat) : Reporting ε (Option SubtypeFact) :=
  match (n.within e "FactRoles" "SubtypeMetaRole").head?,
    (n.within e "FactRoles" "SupertypeMetaRole").head? with
  | some sub, some super =>
    match n.reference sub "RolePlayer", n.reference super "RolePlayer" with
    | some subtype, some supertype =>
      pure (some
        { id := e.attribute? "id"
          subtypeId := some subtype
          supertypeId := some supertype
          name := text e "_Name"
          subtypeRoleId := sub.attribute? "id"
          supertypeRoleId := super.attribute? "id"
          order })
    | _, _ => leftOut e "role players"
  | _, _ => leftOut e "meta roles"

/-- The subtype facts in a section. -/
def subtypeFacts {ε : Type} : List (Element × Nat) → Reporting ε (List SubtypeFact)
  | [] => pure []
  | (e, order) :: rest => do
    let fact ← if e.hasName n.orm "SubtypeFact" then n.subtypeFact? e order else pure none
    return fact.toList ++ (← subtypeFacts rest)

/-- The roles that a constraint spans. -/
def spannedRoles (e : Element) : List Id := references (n.within e "RoleSequence" "Role")

/-- The uniqueness constraint in an element. -/
def uniquenessConstraint (e : Element) (order : Nat) : UniquenessConstraint where
  id := e.attribute? "id"
  roleIds := n.spannedRoles e
  name := text e "Name"
  preferredIdentifierFor := n.reference e "PreferredIdentifierFor"
  order := order

/-- The mandatory constraint in an element. -/
def mandatoryConstraint (e : Element) (order : Nat) : MandatoryConstraint where
  id := e.attribute? "id"
  roleIds := n.spannedRoles e
  name := text e "Name"
  order := order

/-- The data type in an element. Its kind is the local name, and outside the name space of the model
the whole name. -/
def dataType (e : Element) (order : Nat) : DataType where
  id := e.attribute? "id"
  kind := if e.hasName n.orm e.name.base then e.name.base else e.name.text
  order := order

/-- The diagram in an element. A shape counts if it has a subject. -/
def diagramOf (e : Element) (order : Nat) : Diagram :=
  let subject (shape : Element) : Id :=
    (shape.selectFirst? n.diagram "Subject").bind fun c => c.attribute? "ref"
  let shapes := ((e.select n.diagram "Shapes").flatMap Element.children).filter fun s =>
    (subject s).isSome
  { id := some (text e "id")
    name := text e "Name"
    subjectRefs := shapes.map subject
    factTypeRefs := (shapes.filter fun s => s.hasName n.diagram "FactTypeShape").map subject
    order }

/-- The element that holds the model: the root or the first below it. -/
def modelElement? (root : Element) : Option Element :=
  if root.hasName n.orm "ORMModel" then some root
  else root.descendants.find? fun e => e.isSelected n.orm "ORMModel"

/-- The elements with a name and their positions. -/
def named (es : List (Element × Nat)) (base : String) : List (Element × Nat) :=
  es.filter fun e => e.1.hasName n.orm base

end Namespaces

namespace Model

/-- Reads the model of a document. -/
def ofDocument (n : Namespaces) (root : Element) : Reporting ReadFault Model :=
  match n.modelElement? root with
  | none => Reporting.fail .noModel
  | some e => do
    let facts := n.sectionOf e "Facts"
    let constraints := n.sectionOf e "Constraints"
    let subtypeFacts ← n.subtypeFacts facts
    let diagrams := root.subtree.filter fun d => d.hasName n.diagram "ORMDiagram"
    let model : Model :=
      { name := Namespaces.text e "Name"
        objects := (n.sectionOf e "Objects").filterMap fun o => n.objectType? o.1 o.2
        factTypes := (n.named facts "Fact").map fun f => n.factType f.1 f.2
        subtypeFacts
        uniquenessConstraints := (n.named constraints "UniquenessConstraint").map fun u =>
          n.uniquenessConstraint u.1 u.2
        mandatoryConstraints := (n.named constraints "MandatoryConstraint").map fun c =>
          n.mandatoryConstraint c.1 c.2
        dataTypes := (n.sectionOf e "DataTypes").map fun d => n.dataType d.1 d.2
        diagrams := diagrams.zipIdx.map fun d => n.diagramOf d.1 d.2 }
    Reporting.note .debug ("ORM model parsed: " ++ model.summary.text)
    return model

end Model

/-! ## Readers -/

/-- Where a document comes from. -/
inductive Source where
  | file (path : Path)
  | text (s : String)
  deriving DecidableEq, Repr

/-- The source that a path or a text gives; the text counts if both are given. -/
def Source.of? (path : Option Path) (text : Option String) : Except ReadFault Source :=
  match text, path with
  | some s, _ => .ok (.text s)
  | none, some p => .ok (.file p)
  | none, none => .error .noSource

/-- A document that can be opened, and its root element while it is open. -/
structure DocumentReader where
  source : Source
  namespaces : Namespaces := {}
  root : Option Element := none
  deriving Repr

namespace DocumentReader

variable (r : DocumentReader)

/-- The root element of the document. -/
def load (store : Store) : Reporting ReadFault Element :=
  match r.source with
  | .text s => Reporting.ofExcept ((Xml.Document.ofText s).mapError .malformed)
  | .file path => do
    Reporting.note .info ("Opening ORM model: " ++ path.text)
    let isThere ← Reporting.ofExcept ((store.pathExists path).mapError .unreadable)
    if !isThere then Reporting.fail (.missing path)
    let bytes ← Reporting.ofExcept ((store.read path).mapError .unreadable)
    Reporting.ofExcept ((Xml.Document.ofBytes store.codecs bytes).mapError .malformed)

/-- Opens the document. -/
def opened (store : Store) : Reporting ReadFault DocumentReader := do
  return { r with root := some (← r.load store) }

/-- Closes the document. -/
def closed : DocumentReader := { r with root := none }

/-- The model of the open document. -/
def model : Reporting ReadFault Model :=
  match r.root with
  | none => Reporting.fail .notOpened
  | some root => Model.ofDocument r.namespaces root

end DocumentReader

/-- Reads the model of a document from its source. -/
def Source.model (s : Source) (n : Namespaces) (store : Store) : Reporting ReadFault Model := do
  let r ← DocumentReader.opened ⟨s, n, none⟩ store
  r.model

end RoleSchema
