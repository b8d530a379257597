import Mathlib.Logic.Equiv.Basic
import RoleSchema.Model.Document
import RoleSchema.Proofs.Model.UnknownElements
import RoleSchema.Proofs.Xml.Renaming

/-!
# Namespaces of documents

The elements of a model are sought by names in two namespaces that are part of the settings. When
the namespaces of a document are renamed, and those of the settings with them, the same elements are
found and the same model is read. The one text that could tell of a namespace is the kind of a data
type outside the namespace of the model, so that these are left out.

* `Namespaces.objectType?_renamed`, `Namespaces.factType_renamed` and so on: the elements of a model,
  one kind after the other.
* `Model.namespaces_interchangeable`: what is read of the whole document.
* `Libraries.namespaces_interchangeable_libraries`: a document in which the two namespaces change
  places.
-/

namespace RoleSchema

open Xml (Element IsExact Renaming)

namespace Namespaces

/-- The namespaces under their new URIs. -/
def renamed (r : Renaming) (n : Namespaces) : Namespaces := ⟨r.space n.orm, r.space n.diagram⟩

/-- Steps in the namespaces select the elements of exactly the names that are sought. -/
structure StepsExact (n : Namespaces) : Prop where
  orm : IsExact n.orm
  diagram : IsExact n.diagram

/-- What is read of documents before and after a renaming. -/
structure Renames (r : Renaming) (n : Namespaces) : Prop where
  before : n.StepsExact
  after : (n.renamed r).StepsExact

variable {r : Renaming} {n : Namespaces}

/-! ## References -/

@[simp] theorem text_renamed (e : Element) (base : String) : text (e.renamed r) base = text e base := by
  rw [text, Element.attribute?_renamed, text]

theorem references_renamed (es : List Element) :
    references (es.map (Element.renamed r)) = references es := by
  simp only [references, List.map_map, Function.comp_def, Element.attribute?_renamed]

namespace Renames

theorem select_orm (h : n.Renames r) (e : Element) (base : String) :
    (e.renamed r).select (n.renamed r).orm base = (e.select n.orm base).map (Element.renamed r) :=
  Element.select_renamed h.before.orm h.after.orm e base

theorem selectFirst?_orm (h : n.Renames r) (e : Element) (base : String) :
    (e.renamed r).selectFirst? (n.renamed r).orm base =
      (e.selectFirst? n.orm base).map (Element.renamed r) :=
  Element.selectFirst?_renamed h.before.orm h.after.orm e base

theorem reference (h : n.Renames r) (e : Element) (base : String) :
    (n.renamed r).reference (e.renamed r) base = n.reference e base := by
  simp only [Namespaces.reference, h.selectFirst?_orm, Option.bind_map, Function.comp_def,
    Element.attribute?_renamed]

theorem childrenOf (h : n.Renames r) (e : Element) (base : String) :
    (n.renamed r).childrenOf (e.renamed r) base =
      (n.childrenOf e base).map (Element.renamed r) := by
  simp only [Namespaces.childrenOf, h.select_orm, List.flatMap_map, List.map_flatMap,
    Element.children_renamed]

theorem within (h : n.Renames r) (e : Element) (first second : String) :
    (n.renamed r).within (e.renamed r) first second =
      (n.within e first second).map (Element.renamed r) := by
  simp only [Namespaces.within, h.select_orm, List.flatMap_map, List.map_flatMap]

end Renames

theorem hasName_orm (r : Renaming) (n : Namespaces) (e : Element) (base : String) :
    (e.renamed r).hasName (n.renamed r).orm base = e.hasName n.orm base :=
  Element.hasName_renamed r e n.orm base

theorem hasName_diagram (r : Renaming) (n : Namespaces) (e : Element) (base : String) :
    (e.renamed r).hasName (n.renamed r).diagram base = e.hasName n.diagram base :=
  Element.hasName_renamed r e n.diagram base

/-! ## Elements of a model -/

theorem objectType?_renamed (h : n.Renames r) (e : Element) (order : Nat) :
    (n.renamed r).objectType? (e.renamed r) order = n.objectType? e order := by
  simp only [objectType?, hasName_orm, h.reference, h.childrenOf, references_renamed, text_renamed,
    Element.attribute?_renamed]

theorem factType_renamed (h : n.Renames r) (e : Element) (order : Nat) :
    (n.renamed r).factType (e.renamed r) order = n.factType e order := by
  simp only [factType, h.within, h.reference, references_renamed, text_renamed, List.map_map,
    Function.comp_def, Element.attribute?_renamed]

theorem leftOut_renamed {ε : Type} (e : Element) (what : String) :
    (leftOut (e.renamed r) what : Reporting ε (Option SubtypeFact)) = leftOut e what := by
  simp only [leftOut, Element.attribute?_renamed]

theorem subtypeFact?_renamed {ε : Type} (h : n.Renames r) (e : Element) (order : Nat) :
    ((n.renamed r).subtypeFact? (e.renamed r) order : Reporting ε (Option SubtypeFact)) =
      n.subtypeFact? e order := by
  simp only [subtypeFact?, h.within, List.head?_map, leftOut_renamed]
  cases (n.within e "FactRoles" "SubtypeMetaRole").head? with
  | none => rfl
  | some sub =>
    cases (n.within e "FactRoles" "SupertypeMetaRole").head? with
    | none => rfl
    | some super =>
      simp only [Option.map_some, h.reference, text_renamed, Element.attribute?_renamed]

theorem uniquenessConstraint_renamed (h : n.Renames r) (e : Element) (order : Nat) :
    (n.renamed r).uniquenessConstraint (e.renamed r) order = n.uniquenessConstraint e order := by
  simp only [uniquenessConstraint, spannedRoles, h.within, h.reference, references_renamed,
    text_renamed, Element.attribute?_renamed]

theorem mandatoryConstraint_renamed (h : n.Renames r) (e : Element) (order : Nat) :
    (n.renamed r).mandatoryConstraint (e.renamed r) order = n.mandatoryConstraint e order := by
  simp only [mandatoryConstraint, spannedRoles, h.within, references_renamed, text_renamed,
    Element.attribute?_renamed]

/-- The kind of a data type of the model is its local name, whatever the namespace is called. -/
theorem dataType_renamed {e : Element} (he : e.name.space = n.orm) (order : Nat) :
    (n.renamed r).dataType (e.renamed r) order = n.dataType e order := by
  have htext (hempty : e.name.space = "") : (e.name.renamed r).text = e.name.text := by
    simp only [Xml.Name.text, Xml.Name.renamed, hempty, r.none_eq]
  simp only [dataType, Element.attribute?_renamed, hasName_orm, Element.name_renamed]
  by_cases hempty : e.name.space = ""
  · rw [htext hempty]
    rfl
  · have hname : e.hasName n.orm e.name.base = true := by simp [Element.hasName, ← he, hempty]
    have hname' : e.hasName n.orm (e.name.renamed r).base = true := hname
    rw [if_pos hname, if_pos hname']
    rfl

theorem diagramOf_renamed (h : n.Renames r) (e : Element) (order : Nat) :
    (n.renamed r).diagramOf (e.renamed r) order = n.diagramOf e order := by
  have hsubject (s : Element) : (n.renamed r).subjectOf (s.renamed r) = n.subjectOf s := by
    simp only [subjectOf, renamed, Element.selectFirst?_renamed h.before.diagram h.after.diagram,
      Option.bind_map, Function.comp_def, Element.attribute?_renamed]
  have hshapes : (n.renamed r).shapesOf (e.children.map (Element.renamed r)) =
      (n.shapesOf e.children).map (Element.renamed r) := by
    have hselected (c : Element) :
        (c.renamed r).isSelected (r.space n.diagram) "Shapes" = c.isSelected n.diagram "Shapes" :=
      Element.isSelected_renamed h.before.diagram h.after.diagram c "Shapes"
    simp only [shapesOf, renamed, List.filter_map, Function.comp_def, hselected, List.flatMap_map,
      List.map_flatMap, Element.children_renamed]
  simp only [diagramOf_eq, Element.children_renamed, hshapes, List.filter_map, List.map_map,
    Function.comp_def, hsubject, hasName_diagram, text_renamed]

/-! ## Sections -/

/-- The elements of a section are renamed at their positions. -/
theorem sectionOf_renamed (h : n.Renames r) (e : Element) (base : String) :
    (n.renamed r).sectionOf (e.renamed r) base =
      (n.sectionOf e base).map fun q => (q.1.renamed r, q.2) := by
  simp only [sectionOf, h.selectFirst?_orm]
  cases e.selectFirst? n.orm base with
  | none => rfl
  | some s =>
    simp only [Option.map_some, Element.children_renamed, List.zipIdx_map]
    rfl

theorem named_renamed (es : List (Element × Nat)) (base : String) :
    (n.renamed r).named (es.map fun q => (q.1.renamed r, q.2)) base =
      (n.named es base).map fun q => (q.1.renamed r, q.2) := by
  simp only [named, List.filter_map, Function.comp_def, hasName_orm]

theorem subtypeFacts_renamed {ε : Type} (h : n.Renames r) (es : List (Element × Nat)) :
    ((n.renamed r).subtypeFacts (es.map fun q => (q.1.renamed r, q.2)) :
      Reporting ε (List SubtypeFact)) = n.subtypeFacts es := by
  induction es with
  | nil => rfl
  | cons q rest ih =>
    simp only [List.map_cons, subtypeFacts, hasName_orm, subtypeFact?_renamed h, ih]

theorem drawn_renamed (h : n.Renames r) (es : List Element) :
    (n.renamed r).drawn (es.map (Element.renamed r)) = n.drawn es := by
  have hdiagram (e : Element) : (n.renamed r).diagramOf (e.renamed r) = n.diagramOf e :=
    funext (diagramOf_renamed h e)
  simp only [drawn, List.filter_map, List.map_map, Function.comp_def, hasName_diagram, hdiagram]

/-- The model is found where it was. -/
theorem modelElement?_renamed (h : n.Renames r) (root : Element) :
    (n.renamed r).modelElement? (root.renamed r) =
      (n.modelElement? root).map (Element.renamed r) := by
  have hselected (e : Element) :
      (e.renamed r).isSelected (n.renamed r).orm "ORMModel" = e.isSelected n.orm "ORMModel" :=
    Element.isSelected_renamed h.before.orm h.after.orm e "ORMModel"
  unfold modelElement?
  rw [hasName_orm, Element.descendants_renamed, List.find?_map]
  simp only [Function.comp_def, hselected]
  split <;> rfl

end Namespaces

namespace Model

variable {r : Renaming} {n : Namespaces} {root : Element}

/-- The model in an element is read as it was, if all its data types are in the namespace. -/
theorem inElement_renamed (h : n.Renames r) {e : Element}
    (hkinds : ∀ d ∈ n.sectionOf e "DataTypes", d.1.name.space = n.orm)
    (diagrams : List (Nat → Diagram)) (subtypeFacts : List SubtypeFact) :
    inElement (n.renamed r) (e.renamed r) diagrams subtypeFacts =
      inElement n e diagrams subtypeFacts := by
  have hdataTypes : (n.sectionOf e "DataTypes").map
        (fun d => (n.renamed r).dataType (d.1.renamed r) d.2) =
      (n.sectionOf e "DataTypes").map fun d => n.dataType d.1 d.2 :=
    List.map_congr_left fun d hd => Namespaces.dataType_renamed (hkinds d hd) d.2
  simp only [inElement, Namespaces.sectionOf_renamed h, Namespaces.named_renamed,
    Namespaces.text_renamed, List.filterMap_map, List.map_map, Function.comp_def,
    Namespaces.objectType?_renamed h, Namespaces.factType_renamed h,
    Namespaces.uniquenessConstraint_renamed h, Namespaces.mandatoryConstraint_renamed h, hdataTypes]

/-- **Namespaces are interchangeable.** When the namespaces of a document are renamed, and those in
which its elements are sought with them, the same model is read or the document fails with the same
fault, and the same is logged. The data types of the model must be in its namespace, and a step must
select exactly the elements of a name. -/
theorem namespaces_interchangeable (r : Renaming) (n : Namespaces) (root : Element)
    (hbefore : n.StepsExact) (hafter : (n.renamed r).StepsExact)
    (hkinds : ∀ e, n.modelElement? root = some e →
      ∀ d ∈ n.sectionOf e "DataTypes", d.1.name.space = n.orm) :
    ofDocument (n.renamed r) (root.renamed r) = ofDocument n root := by
  have h : n.Renames r := ⟨hbefore, hafter⟩
  have hmodel := Namespaces.modelElement?_renamed h root
  cases he : n.modelElement? root with
  | none =>
    rw [he, Option.map_none] at hmodel
    rw [ofDocument, ofDocument, he, hmodel]
  | some e =>
    rw [he, Option.map_some] at hmodel
    rw [ofDocument_eq he, ofDocument_eq hmodel, Namespaces.sectionOf_renamed h,
      Namespaces.subtypeFacts_renamed h, Element.subtree_renamed, Namespaces.drawn_renamed h]
    simp only [inElement_renamed h (hkinds e he)]

end Model

/-! ## Libraries -/

namespace Libraries

/-- An element in a namespace. -/
def element (space base : String) (attributes : List (String × String)) (children : List Element) :
    Element where
  name := ⟨space, base⟩
  attributes := attributes.map fun a => (⟨"", a.1⟩, a.2)
  children := children

/-- A model of books and their titles. What is stamped into them is drawn only. -/
def books (orm diagram : String) : Element :=
  element orm "ORMModel" [("Name", "Library")]
    [element orm "Objects" []
        [element diagram "EntityType" [("id", "stamp"), ("Name", "Stamp")] [],
          element orm "EntityType" [("id", "book"), ("Name", "Book")] [],
          element orm "ValueType" [("id", "title"), ("Name", "Title")]
            [element orm "ConceptualDataType" [("ref", "text")] []]],
      element orm "DataTypes" [] [element orm "FixedLengthTextDataType" [("id", "text")] []]]

/-- A document with the model and a diagram of it, in two namespaces. -/
def document (orm diagram : String) : Element :=
  element "" "ORM2" []
    [element diagram "ORMDiagram" [("id", "books"), ("Name", "Book:concept")]
        [element diagram "Shapes" []
          [element diagram "ObjectTypeShape" [] [element diagram "Subject" [("ref", "book")] []]]],
      books orm diagram]

/-- The two namespaces of the settings change places. -/
def exchange : Renaming where
  space := Equiv.swap ({} : Namespaces).orm ({} : Namespaces).diagram
  injective := Equiv.injective _
  none_eq := Equiv.swap_apply_of_ne_of_ne (by decide) (by decide)

/-- The namespaces in each other's place. -/
def exchanged : Namespaces := ⟨({} : Namespaces).diagram, ({} : Namespaces).orm⟩

theorem renamed_exchange : ({} : Namespaces).renamed exchange = exchanged := by
  simp only [Namespaces.renamed, exchange, Equiv.swap_apply_left, Equiv.swap_apply_right, exchanged]

theorem renamed_document (r : Renaming) (orm diagram : String) :
    (document orm diagram).renamed r = document (r.space orm) (r.space diagram) := by
  simp [document, books, element, Element.renamed, Element.renamedAll, Xml.Name.renamed, r.none_eq]

/-- What is read of the document. -/
def model : Model where
  name := "Library"
  objects := [{ id := some "book", name := "Book", kind := .entity, order := 1 },
    { id := some "title", name := "Title", kind := .value, order := 2, dataType := some "text" }]
  dataTypes := [{ id := some "text", kind := "FixedLengthTextDataType" }]
  diagrams := [{ id := some "books", name := "Book:concept", subjectRefs := [some "book"] }]

theorem stepsExact : ({} : Namespaces).StepsExact :=
  ⟨Xml.isExact_iff.mpr (by decide), Xml.isExact_iff.mpr (by decide)⟩

theorem stepsExact_exchanged : exchanged.StepsExact := ⟨stepsExact.diagram, stepsExact.orm⟩

set_option maxRecDepth 100000 in
/-- The document in which each namespace has the URI of the other has the same model. -/
theorem namespaces_interchangeable_libraries :
    ({} : Namespaces).StepsExact ∧ exchanged.StepsExact ∧
      (∀ e, ({} : Namespaces).modelElement? (document ({} : Namespaces).orm ({} : Namespaces).diagram) =
          some e →
        ∀ d ∈ ({} : Namespaces).sectionOf e "DataTypes", d.1.name.space = ({} : Namespaces).orm) ∧
      Model.ofDocument exchanged (document exchanged.orm exchanged.diagram) =
        Model.ofDocument {} (document ({} : Namespaces).orm ({} : Namespaces).diagram) ∧
      (Model.ofDocument exchanged (document exchanged.orm exchanged.diagram)).result = .ok model := by
  have hfound : ({} : Namespaces).modelElement?
      (document ({} : Namespaces).orm ({} : Namespaces).diagram) =
        some (books ({} : Namespaces).orm ({} : Namespaces).diagram) := rfl
  have hkinds : ∀ e, ({} : Namespaces).modelElement?
      (document ({} : Namespaces).orm ({} : Namespaces).diagram) = some e →
        ∀ d ∈ ({} : Namespaces).sectionOf e "DataTypes",
          d.1.name.space = ({} : Namespaces).orm := by
    intro e he
    rw [hfound] at he
    cases he
    decide
  have hafter : (({} : Namespaces).renamed exchange).StepsExact :=
    renamed_exchange ▸ stepsExact_exchanged
  have hsame := Model.namespaces_interchangeable exchange {}
    (document ({} : Namespaces).orm ({} : Namespaces).diagram) stepsExact hafter hkinds
  have hdocument : (document ({} : Namespaces).orm ({} : Namespaces).diagram).renamed exchange =
      document exchanged.orm exchanged.diagram := by
    rw [renamed_document, ← renamed_exchange]
    rfl
  rw [hdocument, renamed_exchange] at hsame
  exact ⟨stepsExact, stepsExact_exchanged, hkinds, hsame, by decide +kernel⟩

end Libraries

end RoleSchema
