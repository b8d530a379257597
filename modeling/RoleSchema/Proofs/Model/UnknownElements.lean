import RoleSchema.Model.Document
import RoleSchema.Proofs.Model.Extension
import RoleSchema.Proofs.Schema.Plan
import RoleSchema.Proofs.Schema.Alteration
import RoleSchema.Proofs.Xml.Insertion

/-!
# Unknown elements of a document

The sections of a model can hold elements that are not translated. The model of a document into which
such elements are put has the same elements, at later positions; and the schemas, the findings and
the log are the same.

* `Namespaces.Grown`: a document, and what it becomes when such elements are put into it; wherever a
  document has its model, `Namespaces.exists_grown`.
* `Grown.exists_model`, `Grown.drawn_subtree`: the model and the diagrams that are found in it.
* `Model.ofDocument_grown`: the model that is read.
* `Model.unknown_elements_passed_over`: the model, the log and the schemas.
-/

namespace RoleSchema

open Xml (Element Inserted SameTag rel_find?)
open Xml.Element (subtrees)

namespace Namespaces

/-- The sections of a model, with the names of the elements that are translated in each. -/
def translatedIn : List (String × List String) :=
  [("Objects", ["EntityType", "ValueType"]), ("Facts", ["Fact", "SubtypeFact"]),
    ("Constraints", ["UniquenessConstraint", "MandatoryConstraint"])]

variable (n : Namespaces)

/-- An element has none of the names that are translated, and there is no diagram in it. -/
structure IsUnknown (names : List String) (x : Element) : Prop where
  untranslated : ∀ base ∈ names, x.hasName n.orm base = false
  undrawn : ∀ d ∈ x.subtree, d.hasName n.diagram "ORMDiagram" = false

/-- A child of the model, and what it becomes when unknown elements are put into sections. -/
inductive GrownSection : Element → Element → Prop
  | same (e : Element) : GrownSection e e
  | grown {name attributes children children'} {base : String} {names : List String}
    (known : (base, names) ∈ translatedIn)
    (selected : (⟨name, attributes, children⟩ : Element).isSelected n.orm base = true)
    (inserted : Inserted (n.IsUnknown names) children children') :
    GrownSection ⟨name, attributes, children⟩ ⟨name, attributes, children'⟩

/-- Whether an element holds the model, by its name. -/
def isModel (isRoot : Bool) (e : Element) : Bool :=
  if isRoot then e.hasName n.orm "ORMModel" else e.isSelected n.orm "ORMModel"

/-- An element, and what it becomes when unknown elements are put into the sections of the first
model in it. -/
inductive Grown : Bool → Element → Element → Prop
  | model {isRoot name attributes children children'}
    (named : n.isModel isRoot ⟨name, attributes, children⟩ = true)
    (sections : List.Forall₂ n.GrownSection children children') :
    Grown isRoot ⟨name, attributes, children⟩ ⟨name, attributes, children'⟩
  | inside {isRoot name attributes before e e' after}
    (unnamed : n.isModel isRoot ⟨name, attributes, before ++ e :: after⟩ = false)
    (first : ∀ b ∈ subtrees before, b.isSelected n.orm "ORMModel" = false)
    (grown : Grown false e e') :
    Grown isRoot ⟨name, attributes, before ++ e :: after⟩ ⟨name, attributes, before ++ e' :: after⟩

variable {n} {isRoot : Bool} {e e' : Element}

/-! ## Tags -/

theorem GrownSection.sameTag (h : n.GrownSection e e') : SameTag e e' := by
  cases h <;> exact ⟨rfl, rfl⟩

theorem Grown.sameTag (h : n.Grown isRoot e e') : SameTag e e' := by
  cases h <;> exact ⟨rfl, rfl⟩

/-- One of several elements is replaced. -/
theorem forall₂_replaced {R : Element → Element → Prop} (hrefl : ∀ e, R e e) (h : R e e')
    (before after : List Element) :
    List.Forall₂ R (before ++ e :: after) (before ++ e' :: after) :=
  List.rel_append (List.forall₂_same.mpr fun b _ => hrefl b)
    (.cons h (List.forall₂_same.mpr fun b _ => hrefl b))

theorem Grown.sameTag_children (h : n.Grown isRoot e e') :
    List.Forall₂ SameTag e.children e'.children := by
  cases h with
  | model _ sections => exact sections.imp fun _ _ => GrownSection.sameTag
  | inside _ _ grown => exact forall₂_replaced SameTag.refl grown.sameTag _ _

/-! ## The model -/

theorem base_of_isModel (h : n.isModel isRoot e = true) : e.name.base = "ORMModel" := by
  unfold isModel at h
  split at h
  · exact Element.base_of_hasName h
  · exact Element.base_of_isSelected h

/-- The first model in an element. -/
def firstModel? (n : Namespaces) (isRoot : Bool) (e : Element) : Option Element :=
  if n.isModel isRoot e then some e
  else e.descendants.find? fun d => d.isSelected n.orm "ORMModel"

theorem modelElement?_eq (root : Element) : n.modelElement? root = n.firstModel? true root := rfl

theorem find?_subtree (e : Element) :
    e.subtree.find? (fun d => d.isSelected n.orm "ORMModel") = n.firstModel? false e := by
  rw [Element.subtree_eq, List.find?_cons]
  unfold firstModel? isModel Element.descendants
  cases e.isSelected n.orm "ORMModel" <;> simp

theorem firstModel?_inside {name attributes before after}
    (unnamed : n.isModel isRoot ⟨name, attributes, before ++ e :: after⟩ = false)
    (first : ∀ b ∈ subtrees before, b.isSelected n.orm "ORMModel" = false) {found : Element}
    (h : n.firstModel? false e = some found) :
    n.firstModel? isRoot ⟨name, attributes, before ++ e :: after⟩ = some found := by
  have hbefore : (subtrees before).find? (fun d => d.isSelected n.orm "ORMModel") = none :=
    List.find?_eq_none.mpr fun b hb => by simp [first b hb]
  rw [firstModel?, unnamed, if_neg Bool.false_ne_true, Element.descendants, Element.subtrees_append,
    List.find?_append, hbefore, Option.none_or, Element.subtrees, List.find?_append, find?_subtree,
    h, Option.some_or]

/-- The model in an element grows with it. -/
theorem Grown.exists_model (h : n.Grown isRoot e e') :
    ∃ model model' : Element, n.firstModel? isRoot e = some model ∧
      n.firstModel? isRoot e' = some model' ∧ SameTag model model' ∧
      List.Forall₂ n.GrownSection model.children model'.children := by
  induction h with
  | @model isRoot name attributes children children' named sections =>
    have named' : n.isModel isRoot ⟨name, attributes, children'⟩ = true := named
    exact ⟨_, _, if_pos named, if_pos named', ⟨rfl, rfl⟩, sections⟩
  | @inside isRoot name attributes before e e' after unnamed first grown ih =>
    obtain ⟨model, model', hmodel, hmodel', htag, hsections⟩ := ih
    have unnamed' : n.isModel isRoot ⟨name, attributes, before ++ e' :: after⟩ = false := unnamed
    exact ⟨model, model', firstModel?_inside unnamed first hmodel,
      firstModel?_inside unnamed' first hmodel', htag, hsections⟩

/-- Where the first model is among elements with all below them. -/
theorem exists_before_model {es : List Element} {model : Element}
    (h : (subtrees es).find? (fun d => d.isSelected n.orm "ORMModel") = some model) :
    ∃ before e after, es = before ++ e :: after ∧
      (∀ b ∈ subtrees before, b.isSelected n.orm "ORMModel" = false) ∧
      n.firstModel? false e = some model := by
  induction es with
  | nil => simp [subtrees] at h
  | cons e es ih =>
    rw [subtrees, List.find?_append, find?_subtree] at h
    cases he : n.firstModel? false e with
    | some found =>
      rw [he, Option.some_or] at h
      exact ⟨[], e, es, rfl, by simp [subtrees], he.trans h⟩
    | none =>
      rw [he, Option.none_or] at h
      obtain ⟨before, x, after, rfl, first, hx⟩ := ih h
      refine ⟨e :: before, x, after, rfl, fun b hb => ?_, hx⟩
      rw [subtrees, List.mem_append] at hb
      rcases hb with hb | hb
      · rw [← find?_subtree, List.find?_eq_none] at he
        simpa using he b hb
      · exact first b hb

/-- Wherever an element has its first model, the sections of that can grow. -/
theorem exists_grown (isRoot : Bool) : ∀ (e : Element) {model : Element} {sections : List Element},
    n.firstModel? isRoot e = some model → List.Forall₂ n.GrownSection model.children sections →
      ∃ e', n.Grown isRoot e e' ∧
        n.firstModel? isRoot e' = some ⟨model.name, model.attributes, sections⟩
  | ⟨name, attributes, children⟩, model, sections, h, hsections => by
    cases named : n.isModel isRoot ⟨name, attributes, children⟩ with
    | true =>
      rw [firstModel?, if_pos named] at h
      obtain rfl := Option.some.inj h
      have named' : n.isModel isRoot ⟨name, attributes, sections⟩ = true := named
      exact ⟨_, .model named hsections, if_pos named'⟩
    | false =>
      rw [firstModel?, named, if_neg Bool.false_ne_true] at h
      obtain ⟨before, x, after, hchildren, first, hx⟩ := exists_before_model h
      have hmem : x ∈ children := by
        rw [show children = before ++ x :: after from hchildren]
        exact List.mem_append_right _ (List.mem_cons_self ..)
      obtain ⟨x', hgrown, hx'⟩ := exists_grown false x hx hsections
      obtain rfl : children = before ++ x :: after := hchildren
      have unnamed' : n.isModel isRoot ⟨name, attributes, before ++ x' :: after⟩ = false := named
      exact ⟨_, .inside named first hgrown, firstModel?_inside unnamed' first hx'⟩

/-! ## Diagrams -/

/-- What a shape stands for. -/
def subjectOf (n : Namespaces) (shape : Element) : Id :=
  (shape.selectFirst? n.diagram "Subject").bind fun c => c.attribute? "ref"

/-- The shapes among the children of a diagram. -/
def shapesOf (n : Namespaces) (es : List Element) : List Element :=
  (es.filter fun c => c.isSelected n.diagram "Shapes").flatMap Element.children

theorem diagramOf_eq (e : Element) (order : Nat) : n.diagramOf e order =
    { id := some (text e "id")
      name := text e "Name"
      subjectRefs :=
        ((n.shapesOf e.children).filter fun s => (n.subjectOf s).isSome).map n.subjectOf
      factTypeRefs := ((n.shapesOf e.children).filter fun s =>
        s.hasName n.diagram "FactTypeShape" && (n.subjectOf s).isSome).map n.subjectOf
      order := order } := by
  unfold diagramOf
  simp only [List.filter_filter]
  rfl

/-- Two shapes stand for the same and are of one kind. -/
structure SameShape (n : Namespaces) (s s' : Element) : Prop where
  subject : n.subjectOf s' = n.subjectOf s
  kind : s'.hasName n.diagram "FactTypeShape" = s.hasName n.diagram "FactTypeShape"

theorem SameShape.refl (s : Element) : n.SameShape s s := ⟨rfl, rfl⟩

theorem Grown.sameShape (h : n.Grown isRoot e e') : n.SameShape e e' := by
  refine ⟨?_, h.sameTag.hasName _ _⟩
  have hsubject := rel_find? (p := fun c => c.isSelected n.diagram "Subject")
    (fun _ _ htag => htag.isSelected _ _) h.sameTag_children
  unfold subjectOf Element.selectFirst?
  generalize e.children.find? _ = o at hsubject
  generalize e'.children.find? _ = o' at hsubject
  cases hsubject with
  | none => rfl
  | some htag => exact htag.attribute? "ref"

/-- What is put into the model below a diagram is not among the shapes of the diagram. -/
theorem Grown.sameShapes (h : n.Grown isRoot e e') (before after : List Element) :
    List.Forall₂ n.SameShape (n.shapesOf (before ++ e :: after))
      (n.shapesOf (before ++ e' :: after)) := by
  have hsame (es : List Element) : List.Forall₂ n.SameShape es es :=
    List.forall₂_same.mpr fun s _ => SameShape.refl s
  have hchildren (hshapes : e.isSelected n.diagram "Shapes" = true) :
      List.Forall₂ n.SameShape e.children e'.children := by
    cases h with
    | model named _ =>
      have hbase := (base_of_isModel named).symm.trans (Element.base_of_isSelected hshapes)
      exact absurd hbase (by decide)
    | inside _ _ grown => exact forall₂_replaced SameShape.refl grown.sameShape _ _
  simp only [shapesOf, List.filter_append, List.filter_cons, List.flatMap_append,
    h.sameTag.isSelected n.diagram "Shapes"]
  refine List.rel_append (hsame _) ?_
  split
  · next hshapes =>
    rw [List.flatMap_cons, List.flatMap_cons]
    exact List.rel_append (hchildren hshapes) (hsame _)
  · exact hsame _

/-- What related elements are mapped to. -/
theorem map_filter_of_forall₂ {β : Type} {R : Element → Element → Prop} {p : Element → Bool}
    {f : Element → β} (hp : ∀ s s', R s s' → p s' = p s) (hf : ∀ s s', R s s' → f s' = f s)
    {es es' : List Element} (h : List.Forall₂ R es es') :
    (es'.filter p).map f = (es.filter p).map f := by
  induction h with
  | nil => rfl
  | @cons s s' es es' hs _ ih =>
    rw [List.filter_cons, List.filter_cons, hp s s' hs]
    split
    · rw [List.map_cons, List.map_cons, hf s s' hs, ih]
    · exact ih

theorem Grown.diagramOf {name attributes before after} (h : n.Grown isRoot e e') :
    n.diagramOf ⟨name, attributes, before ++ e' :: after⟩ =
      n.diagramOf ⟨name, attributes, before ++ e :: after⟩ := by
  have hshapes := h.sameShapes before after
  have hsubjects := map_filter_of_forall₂ (p := fun s => (n.subjectOf s).isSome)
    (fun _ _ hs => by rw [hs.subject]) (fun _ _ hs => hs.subject) hshapes
  have hfactTypes := map_filter_of_forall₂
    (p := fun s => s.hasName n.diagram "FactTypeShape" && (n.subjectOf s).isSome)
    (fun _ _ hs => by rw [hs.kind, hs.subject]) (fun _ _ hs => hs.subject) hshapes
  funext order
  rw [diagramOf_eq, diagramOf_eq, hsubjects, hfactTypes]
  rfl

/-- The diagrams among elements, but for their positions. -/
def drawn (n : Namespaces) (es : List Element) : List (Nat → Diagram) :=
  (es.filter fun d => d.hasName n.diagram "ORMDiagram").map n.diagramOf

theorem drawn_append (es fs : List Element) : n.drawn (es ++ fs) = n.drawn es ++ n.drawn fs := by
  simp only [drawn, List.filter_append, List.map_append]

theorem drawn_cons (e : Element) (es : List Element) :
    n.drawn (e :: es) = n.drawn [e] ++ n.drawn es := drawn_append [e] es

theorem drawn_cons_of_ne (h : e.name.base ≠ "ORMDiagram") (es : List Element) :
    n.drawn (e :: es) = n.drawn es := by
  have hname : ¬ e.hasName n.diagram "ORMDiagram" = true := fun hd => h (Element.base_of_hasName hd)
  unfold drawn
  rw [List.filter_cons, if_neg hname]

theorem base_ne_of_mem_translatedIn {base : String} {names : List String}
    (h : (base, names) ∈ translatedIn) : base ≠ "ORMDiagram" := by
  rintro rfl
  simp [translatedIn] at h

theorem GrownSection.drawn_subtree (h : n.GrownSection e e') : n.drawn e'.subtree = n.drawn e.subtree := by
  cases h with
  | same => rfl
  | @grown name attributes children children' base names known selected inserted =>
    have hbase : name.base = base := Element.base_of_isSelected selected
    have hne : name.base ≠ "ORMDiagram" := hbase ▸ base_ne_of_mem_translatedIn known
    have hnew := inserted.filter_subtrees (p := fun d => d.hasName n.diagram "ORMDiagram")
      fun _ hx => hx.undrawn
    rw [Element.subtree_eq, Element.subtree_eq, drawn_cons_of_ne hne, drawn_cons_of_ne hne]
    exact congrArg (List.map n.diagramOf) hnew

theorem drawn_subtrees {es es' : List Element} (h : List.Forall₂ n.GrownSection es es') :
    n.drawn (subtrees es') = n.drawn (subtrees es) := by
  induction h with
  | nil => rfl
  | cons he _ ih => rw [subtrees, subtrees, drawn_append, drawn_append, he.drawn_subtree, ih]

/-- The diagrams of a document stay as they are. -/
theorem Grown.drawn_subtree (h : n.Grown isRoot e e') : n.drawn e'.subtree = n.drawn e.subtree := by
  induction h with
  | @model isRoot name attributes children children' named sections =>
    have hbase : name.base = "ORMModel" := base_of_isModel named
    have hne : name.base ≠ "ORMDiagram" := by rw [hbase]; decide
    rw [Element.subtree_eq, Element.subtree_eq, drawn_cons_of_ne hne, drawn_cons_of_ne hne]
    exact drawn_subtrees sections
  | @inside isRoot name attributes before e e' after _ _ grown ih =>
    have hself : n.drawn [⟨name, attributes, before ++ e' :: after⟩] =
        n.drawn [⟨name, attributes, before ++ e :: after⟩] := by
      unfold drawn
      have hname : (⟨name, attributes, before ++ e' :: after⟩ : Element).hasName n.diagram
            "ORMDiagram" =
          (⟨name, attributes, before ++ e :: after⟩ : Element).hasName n.diagram "ORMDiagram" := rfl
      rw [List.filter_cons, List.filter_cons, hname]
      split
      · simp only [List.filter_nil, List.map_cons, grown.diagramOf]
      · rfl
    have hbelow : n.drawn (subtrees (before ++ e' :: after)) =
        n.drawn (subtrees (before ++ e :: after)) := by
      simp only [Element.subtrees_append, subtrees, drawn_append, ih]
    rw [Element.subtree_eq, Element.subtree_eq, drawn_cons, hself, hbelow, ← drawn_cons]

/-- The diagrams of a document are told apart by their positions among the diagrams. -/
theorem diagrams_eq_drawn (es : List Element) :
    ((es.filter fun d => d.hasName n.diagram "ORMDiagram").zipIdx.map fun d =>
        n.diagramOf d.1 d.2) = (n.drawn es).zipIdx.map fun d => d.1 d.2 := by
  unfold drawn
  rw [List.zipIdx_map, List.map_map]
  rfl

/-! ## Sections -/

theorem eq_of_mem_translatedIn {base : String} {names names' : List String}
    (h : (base, names) ∈ translatedIn) (h' : (base, names') ∈ translatedIn) : names' = names := by
  simp only [translatedIn, List.mem_cons, Prod.mk.injEq, List.not_mem_nil, or_false] at h h'
  rcases h with ⟨rfl, rfl⟩ | ⟨rfl, rfl⟩ | ⟨rfl, rfl⟩ <;> simpa using h'

section

variable {model model' : Element}

/-- The section of a name stays as it is, or unknown elements are put between those that it has. -/
theorem sectionOf_eq_or_inserted (h : List.Forall₂ n.GrownSection model.children model'.children)
    (base : String) :
    n.sectionOf model' base = n.sectionOf model base ∨
      ∃ names es es', (base, names) ∈ translatedIn ∧ Inserted (n.IsUnknown names) es es' ∧
        n.sectionOf model base = es.zipIdx ∧ n.sectionOf model' base = es'.zipIdx := by
  have hrel : Option.Rel n.GrownSection (model.selectFirst? n.orm base)
      (model'.selectFirst? n.orm base) := rel_find? (fun _ _ hs => hs.sameTag.isSelected _ _) h
  have hbase : ∀ s, model.selectFirst? n.orm base = some s → s.name.base = base :=
    fun _ => Element.base_of_selectFirst?
  unfold sectionOf
  generalize model.selectFirst? n.orm base = o at hrel hbase
  generalize model'.selectFirst? n.orm base = o' at hrel
  cases hrel with
  | none => exact .inl rfl
  | some hs =>
    cases hs with
    | same => exact .inl rfl
    | @grown name attributes children children' base' names known selected inserted =>
      have hname : name.base = base := hbase _ rfl
      have hbase' : name.base = base' := Element.base_of_isSelected selected
      obtain rfl : base = base' := hname.symm.trans hbase'
      exact .inr ⟨names, children, children', known, inserted, rfl, rfl⟩

/-- Nothing is put into the section of data types. -/
theorem sectionOf_dataTypes (h : List.Forall₂ n.GrownSection model.children model'.children) :
    n.sectionOf model' "DataTypes" = n.sectionOf model "DataTypes" := by
  rcases sectionOf_eq_or_inserted h "DataTypes" with heq | ⟨names, _, _, known, _⟩
  · exact heq
  · simp [translatedIn] at known

/-- The elements of a section that are translated come at other positions. -/
def Moves (p : Int ↪o Int) (names : List String) (n : Namespaces) (es es' : List (Element × Nat)) :
    Prop :=
  ∃ f : Nat → Nat, (∀ i : Nat, p i = f i) ∧
    ∀ test : Element → Bool, (∀ x, n.IsUnknown names x → test x = false) →
      es'.filter (fun q => test q.1) = (es.filter fun q => test q.1).map fun q => (q.1, f q.2)

theorem exists_moves (h : List.Forall₂ n.GrownSection model.children model'.children)
    {base : String} {names : List String} (known : (base, names) ∈ translatedIn) :
    ∃ p, Moves p names n (n.sectionOf model base) (n.sectionOf model' base) := by
  rcases sectionOf_eq_or_inserted h base with heq | ⟨names', es, es', known', inserted, hes, hes'⟩
  · exact ⟨RelEmbedding.refl _, id, fun _ => rfl, fun _ _ => by rw [heq]; simp⟩
  · rw [eq_of_mem_translatedIn known known'] at inserted
    obtain ⟨f, hf, hpositions⟩ := inserted.exists_positions
    refine ⟨OrderEmbedding.ofStrictMono _ fun _ _ => Xml.movedPosition_lt hf, f, fun _ => rfl, ?_⟩
    rw [hes, hes']
    exact hpositions

end

/-! ## Elements of a model -/

section

variable {p : Int ↪o Int} {es es' : List (Element × Nat)}

theorem objectTypes_moved (h : Moves p ["EntityType", "ValueType"] n es es') :
    es'.filterMap (fun o => n.objectType? o.1 o.2) =
      (es.filterMap fun o => n.objectType? o.1 o.2).map (ObjectType.moved p) := by
  obtain ⟨f, hp, hmoves⟩ := h
  have hknown (es : List (Element × Nat)) :
      (es.filter fun o => o.1.hasName n.orm "EntityType" || o.1.hasName n.orm "ValueType").filterMap
          (fun o => n.objectType? o.1 o.2) = es.filterMap fun o => n.objectType? o.1 o.2 := by
    refine filterMap_filter_of fun o _ ho => ?_
    obtain ⟨hentity, hvalue⟩ := Bool.or_eq_false_iff.mp ho
    simp [objectType?, hentity, hvalue]
  have hnew : ∀ x, n.IsUnknown ["EntityType", "ValueType"] x →
      (x.hasName n.orm "EntityType" || x.hasName n.orm "ValueType") = false := by
    intro x hx
    rw [hx.untranslated _ (by simp), hx.untranslated _ (by simp), Bool.or_false]
  rw [← hknown es', hmoves _ hnew, List.filterMap_map, ← hknown es, List.map_filterMap]
  refine List.filterMap_congr fun o _ => ?_
  simp only [Function.comp_apply, objectType?, Option.map_map]
  congr 1
  funext kind
  simp only [Function.comp_apply, ObjectType.moved, hp]

/-- Elements of a name that is translated are moved with what they are read as. -/
theorem map_named_moved {α : Type} {names : List String} (h : Moves p names n es es')
    {base : String} (hbase : base ∈ names) {read : Element → Nat → α} {move : α → α}
    (hread : ∀ e (i j : Nat), p i = j → read e j = move (read e i)) :
    ((n.named es' base).map fun q => read q.1 q.2) =
      ((n.named es base).map fun q => read q.1 q.2).map move := by
  obtain ⟨f, hp, hmoves⟩ := h
  unfold named
  rw [hmoves _ fun x hx => hx.untranslated base hbase, List.map_map, List.map_map]
  exact List.map_congr_left fun q _ => hread q.1 q.2 (f q.2) (hp q.2)

theorem factTypes_moved (h : Moves p ["Fact", "SubtypeFact"] n es es') :
    ((n.named es' "Fact").map fun q => n.factType q.1 q.2) =
      ((n.named es "Fact").map fun q => n.factType q.1 q.2).map (FactType.moved p) :=
  map_named_moved h (by simp) fun _ _ _ hp => by simp only [factType, FactType.moved, hp]

theorem uniquenessConstraints_moved
    (h : Moves p ["UniquenessConstraint", "MandatoryConstraint"] n es es') :
    ((n.named es' "UniquenessConstraint").map fun q => n.uniquenessConstraint q.1 q.2) =
      ((n.named es "UniquenessConstraint").map fun q => n.uniquenessConstraint q.1 q.2).map
        (UniquenessConstraint.moved p) :=
  map_named_moved h (by simp) fun _ _ _ hp => by
    simp only [uniquenessConstraint, UniquenessConstraint.moved, hp]

theorem mandatoryConstraints_moved
    (h : Moves p ["UniquenessConstraint", "MandatoryConstraint"] n es es') :
    ((n.named es' "MandatoryConstraint").map fun q => n.mandatoryConstraint q.1 q.2) =
      ((n.named es "MandatoryConstraint").map fun q => n.mandatoryConstraint q.1 q.2).map
        (MandatoryConstraint.moved p) :=
  map_named_moved h (by simp) fun _ _ _ hp => by
    simp only [mandatoryConstraint, MandatoryConstraint.moved, hp]

theorem subtypeFact?_moved {ε : Type} (e : Element) {i j : Nat} (h : p i = j) :
    (n.subtypeFact? e j : Reporting ε (Option SubtypeFact)) =
      (n.subtypeFact? e i).map (Option.map (SubtypeFact.moved p)) := by
  unfold subtypeFact?
  split
  · split
    · simp only [Reporting.map, Reporting.pure_eq, Except.map, Option.map_some, SubtypeFact.moved, h]
    · rfl
  · rfl

section

variable {ε : Type} {q : Element × Nat}

theorem subtypeFacts_cons_of_named (h : q.1.hasName n.orm "SubtypeFact" = true)
    (rest : List (Element × Nat)) :
    (n.subtypeFacts (q :: rest) : Reporting ε (List SubtypeFact)) =
      n.subtypeFact? q.1 q.2 >>= fun fact => n.subtypeFacts rest >>= fun others =>
        pure (fact.toList ++ others) := by
  rw [subtypeFacts, if_pos h]

theorem subtypeFacts_cons_of_other (h : ¬ q.1.hasName n.orm "SubtypeFact" = true)
    (rest : List (Element × Nat)) :
    (n.subtypeFacts (q :: rest) : Reporting ε (List SubtypeFact)) = n.subtypeFacts rest := by
  rw [subtypeFacts, if_neg h, pure_bind]
  simp only [Option.toList_none, List.nil_append, bind_pure]

/-- Only elements that are named subtype facts are read as such. -/
theorem subtypeFacts_named (es : List (Element × Nat)) :
    (n.subtypeFacts (n.named es "SubtypeFact") : Reporting ε (List SubtypeFact)) =
      n.subtypeFacts es := by
  induction es with
  | nil => rfl
  | cons q rest ih =>
    unfold named at ih ⊢
    rw [List.filter_cons]
    split
    · next hname => rw [subtypeFacts_cons_of_named hname, subtypeFacts_cons_of_named hname, ih]
    · next hname => rw [subtypeFacts_cons_of_other hname, ih]

/-- Subtype facts that are read at other positions are the moved ones. -/
theorem subtypeFacts_map {f : Nat → Nat} (hp : ∀ i : Nat, p i = f i)
    (hnamed : ∀ q ∈ es, q.1.hasName n.orm "SubtypeFact" = true) :
    (n.subtypeFacts (es.map fun q => (q.1, f q.2)) : Reporting ε (List SubtypeFact)) =
      (n.subtypeFacts es).map (List.map (SubtypeFact.moved p)) := by
  induction es with
  | nil => rfl
  | cons q rest ih =>
    have hq := hnamed q (List.mem_cons_self ..)
    have hrest := ih fun q' hq' => hnamed q' (List.mem_cons_of_mem _ hq')
    have hq' : (q.1, f q.2).1.hasName n.orm "SubtypeFact" = true := hq
    rw [List.map_cons, subtypeFacts_cons_of_named hq', subtypeFacts_cons_of_named hq, hrest,
      subtypeFact?_moved q.1 (hp q.2), Reporting.map_bind, Reporting.bind_map]
    congr 1
    funext fact
    rw [Reporting.map_bind, Reporting.bind_map]
    congr 1
    funext others
    cases fact <;> rfl

theorem subtypeFacts_moved (h : Moves p ["Fact", "SubtypeFact"] n es es') :
    (n.subtypeFacts es' : Reporting ε (List SubtypeFact)) =
      (n.subtypeFacts es).map (List.map (SubtypeFact.moved p)) := by
  obtain ⟨f, hp, hmoves⟩ := h
  rw [← subtypeFacts_named es', ← subtypeFacts_named es]
  unfold named
  rw [hmoves _ fun x hx => hx.untranslated "SubtypeFact" (by simp)]
  exact subtypeFacts_map hp fun q hq => (List.mem_filter.mp hq).2

end

end

end Namespaces

/-! ## Models -/

namespace Model

variable {n : Namespaces} {root root' : Element}

theorem summary_moved (r : Renumbering) (m : Model) : (m.moved r).summary = m.summary := by
  unfold summary moved
  simp only [List.countP_map, List.length_map]
  rfl

/-- The model in an element, with diagrams and with subtype facts. -/
def inElement (n : Namespaces) (e : Element) (diagrams : List (Nat → Diagram))
    (subtypeFacts : List SubtypeFact) : Model where
  name := Namespaces.text e "Name"
  objects := (n.sectionOf e "Objects").filterMap fun o => n.objectType? o.1 o.2
  factTypes := (n.named (n.sectionOf e "Facts") "Fact").map fun f => n.factType f.1 f.2
  subtypeFacts := subtypeFacts
  uniquenessConstraints := (n.named (n.sectionOf e "Constraints") "UniquenessConstraint").map
    fun u => n.uniquenessConstraint u.1 u.2
  mandatoryConstraints := (n.named (n.sectionOf e "Constraints") "MandatoryConstraint").map
    fun c => n.mandatoryConstraint c.1 c.2
  dataTypes := (n.sectionOf e "DataTypes").map fun d => n.dataType d.1 d.2
  diagrams := diagrams.zipIdx.map fun d => d.1 d.2

theorem ofDocument_eq {e : Element} (h : n.modelElement? root = some e) :
    ofDocument n root =
      n.subtypeFacts (n.sectionOf e "Facts") >>= fun subtypeFacts =>
        Reporting.note .debug ("ORM model parsed: " ++
            (inElement n e (n.drawn root.subtree) subtypeFacts).summary.text) >>= fun _ =>
          pure (inElement n e (n.drawn root.subtree) subtypeFacts) := by
  unfold ofDocument inElement
  rw [h, ← Namespaces.diagrams_eq_drawn]

/-- The model in an element that grows is moved. -/
theorem exists_inElement_moved {e e' : Element} (htag : SameTag e e')
    (hsections : List.Forall₂ n.GrownSection e.children e'.children) :
    ∃ r : Renumbering, Namespaces.Moves r.facts ["Fact", "SubtypeFact"] n (n.sectionOf e "Facts")
        (n.sectionOf e' "Facts") ∧
      ∀ diagrams subtypeFacts,
        inElement n e' diagrams (subtypeFacts.map (SubtypeFact.moved r.facts)) =
          (inElement n e diagrams subtypeFacts).moved r := by
  obtain ⟨hknownObjects, hknownFacts, hknownConstraints⟩ :
      ("Objects", ["EntityType", "ValueType"]) ∈ Namespaces.translatedIn ∧
      ("Facts", ["Fact", "SubtypeFact"]) ∈ Namespaces.translatedIn ∧
      ("Constraints", ["UniquenessConstraint", "MandatoryConstraint"]) ∈ Namespaces.translatedIn :=
    by decide
  obtain ⟨objects, hobjects⟩ := Namespaces.exists_moves hsections hknownObjects
  obtain ⟨facts, hfacts⟩ := Namespaces.exists_moves hsections hknownFacts
  obtain ⟨constraints, hconstraints⟩ := Namespaces.exists_moves hsections hknownConstraints
  refine ⟨⟨objects, facts, constraints⟩, hfacts, fun diagrams subtypeFacts => ?_⟩
  have hname : Namespaces.text e' "Name" = Namespaces.text e "Name" := by
    unfold Namespaces.text
    rw [htag.attribute?]
  unfold inElement
  rw [hname, Namespaces.objectTypes_moved hobjects, Namespaces.factTypes_moved hfacts,
    Namespaces.uniquenessConstraints_moved hconstraints,
    Namespaces.mandatoryConstraints_moved hconstraints, Namespaces.sectionOf_dataTypes hsections]
  rfl

/-- The model of a document is moved when unknown elements are put into its sections, and the log is
the same. -/
theorem ofDocument_grown (h : n.Grown true root root') :
    ∃ r : Renumbering, ofDocument n root' = (ofDocument n root).map (Model.moved r) := by
  obtain ⟨e, e', he, he', htag, hsections⟩ := h.exists_model
  obtain ⟨r, hfacts, hmoved⟩ := exists_inElement_moved htag hsections
  rw [← Namespaces.modelElement?_eq] at he he'
  refine ⟨r, ?_⟩
  rw [ofDocument_eq he, ofDocument_eq he', Namespaces.subtypeFacts_moved hfacts, Reporting.map_bind,
    Reporting.bind_map]
  refine Reporting.bind_congr fun subtypeFacts _ => ?_
  rw [h.drawn_subtree, hmoved, summary_moved, Reporting.bind_map]
  exact Reporting.bind_congr fun _ _ => rfl

theorem returns_subtypeFacts {ε : Type} (es : List (Element × Nat)) :
    (n.subtypeFacts es : Reporting ε (List SubtypeFact)).Returns := by
  induction es with
  | nil => exact ⟨_, rfl⟩
  | cons q rest ih =>
    obtain ⟨others, hothers⟩ := ih
    by_cases hname : q.1.hasName n.orm "SubtypeFact" = true
    · have hfact : ∃ fact, (n.subtypeFact? q.1 q.2 : Reporting ε _).result = .ok fact := by
        unfold Namespaces.subtypeFact?
        split
        · split <;> exact ⟨_, rfl⟩
        · exact ⟨_, rfl⟩
      obtain ⟨fact, hfact⟩ := hfact
      rw [Namespaces.subtypeFacts_cons_of_named hname, Reporting.returns_bind_of_ok hfact,
        Reporting.returns_bind_of_ok hothers]
      exact ⟨_, rfl⟩
    · rw [Namespaces.subtypeFacts_cons_of_other hname]
      exact ⟨others, hothers⟩

/-- A document with a model can be read. -/
theorem returns_ofDocument {e : Element} (h : n.modelElement? root = some e) :
    (ofDocument n root).Returns := by
  obtain ⟨subtypeFacts, hfacts⟩ : (n.subtypeFacts (n.sectionOf e "Facts") :
      Reporting ReadFault _).Returns := returns_subtypeFacts _
  rw [ofDocument_eq h, Reporting.returns_bind_of_ok hfacts]
  exact ⟨_, rfl⟩

/-- **Unknown elements are passed over.** When unknown elements are put anywhere into the sections of
the model of a document, the document has the same model but for the positions of its elements, in
which they keep their order, and the same is logged as it is read. A run over the model has the same
schemas, findings and lines of the log, also where the elements are put in order first. -/
theorem unknown_elements_passed_over (h : n.Grown true root root') :
    ∃ (m : Model) (r : Renumbering), (ofDocument n root).result = .ok m ∧
      ofDocument n root' = ⟨(ofDocument n root).events, .ok (m.moved r)⟩ ∧
      ∀ template, (m.moved r).schemas template = m.schemas template ∧
        (m.moved r).sorted.schemas template = m.sorted.schemas template := by
  obtain ⟨e, -, he, -⟩ := h.exists_model
  obtain ⟨m, hm⟩ := returns_ofDocument (he : n.modelElement? root = some e)
  obtain ⟨r, hr⟩ := ofDocument_grown h
  refine ⟨m, r, hm, ?_, fun template => ⟨schemas_moved r m template, ?_⟩⟩
  · rw [hr, Reporting.map, hm]
    rfl
  · rw [sorted_moved, schemas_moved]

end Model

/-! ## Annexes -/

namespace Annexes

/-- An element of a model. -/
def element (base : String) (attributes : List (String × String)) (children : List Element) :
    Element where
  name := ⟨({} : Namespaces).orm, base⟩
  attributes := attributes.map fun a => (⟨"", a.1⟩, a.2)
  children := children

/-- An element of a diagram. -/
def drawing (base : String) (attributes : List (String × String)) (children : List Element) :
    Element :=
  { element base attributes children with name := ⟨({} : Namespaces).diagram, base⟩ }

/-- Rooms. -/
def room : Element := element "EntityType" [("id", "room"), ("Name", "Room")] []

/-- Rooms open. -/
def opens : Element :=
  element "Fact" [("id", "opens"), ("_Name", "RoomOpens")]
    [element "FactRoles" [] [element "Role" [("id", "who")] [element "RolePlayer" [("ref", "room")] []]],
      element "InternalConstraints" [] [element "UniquenessConstraint" [("ref", "once")] []]]

/-- A room opens in one way. -/
def once : Element :=
  element "UniquenessConstraint" [("id", "once")]
    [element "RoleSequence" [] [element "Role" [("ref", "who")] []]]

/-- A model of rooms that open, with elements before others in each section. -/
def rooms (objects facts constraints : List Element) : Element :=
  element "ORMModel" [("Name", "Rooms")]
    [element "Objects" [] (objects ++ [room]), element "Facts" [] (facts ++ [opens]),
      element "Constraints" [] (constraints ++ [once])]

/-- A document with the model, and with a diagram of it. -/
def document (objects facts constraints : List Element) : Element :=
  element "ORM2" []
    [rooms objects facts constraints,
      drawing "ORMDiagram" [("id", "rooms"), ("Name", "Room:concept")]
        [drawing "Shapes" []
          [drawing "ObjectTypeShape" [] [drawing "Subject" [("ref", "room")] []],
            drawing "FactTypeShape" [] [drawing "Subject" [("ref", "opens")] []]]]]

/-- An object type that is made of facts. -/
def objectified : Element := element "ObjectifiedType" [("id", "opening"), ("Name", "Opening")] []

/-- A fact type that follows from others. -/
def implied : Element :=
  element "ImpliedFact" [("id", "implied"), ("_Name", "OpeningIsOfRoom")]
    [element "FactRoles" [] [element "Role" [("id", "who")] []]]

/-- A constraint of another kind. -/
def ring : Element := element "RingConstraint" [("id", "once")] []

/-- Elements under a name that is not translated, without a diagram, are unknown. -/
theorem isUnknown_objectified :
    ({} : Namespaces).IsUnknown ["EntityType", "ValueType"] objectified :=
  ⟨by decide, by decide⟩

theorem isUnknown_implied : ({} : Namespaces).IsUnknown ["Fact", "SubtypeFact"] implied :=
  ⟨by decide, by decide⟩

theorem isUnknown_ring :
    ({} : Namespaces).IsUnknown ["UniquenessConstraint", "MandatoryConstraint"] ring :=
  ⟨by decide, by decide⟩

theorem grown_rooms : ({} : Namespaces).Grown false (rooms [] [] [])
    (rooms [objectified] [implied, implied] [ring]) :=
  .model (by decide)
    (.cons (.grown (by decide : ("Objects", ["EntityType", "ValueType"]) ∈ _) (by decide)
        (.add isUnknown_objectified (.refl [room])))
      (.cons (.grown (by decide : ("Facts", ["Fact", "SubtypeFact"]) ∈ _) (by decide)
          (.add isUnknown_implied (.add isUnknown_implied (.refl [opens]))))
        (.cons (.grown
            (by decide : ("Constraints", ["UniquenessConstraint", "MandatoryConstraint"]) ∈ _)
            (by decide) (.add isUnknown_ring (.refl [once])))
          .nil)))

/-- The document with elements that are not translated. -/
def annexed : Element := document [objectified] [implied, implied] [ring]

theorem grown_document : ({} : Namespaces).Grown true (document [] [] []) annexed := by
  have hbefore : ∀ b ∈ subtrees [], b.isSelected ({} : Namespaces).orm "ORMModel" = false := by
    simp [subtrees]
  exact .inside (by decide) hbefore grown_rooms

/-- What the model of a document is asked for. -/
def read {α : Type} (f : Model → α) (root : Element) : Except ReadFault α :=
  (Model.ofDocument {} root).result.map f

theorem eq_of_read {α : Type} {f : Model → α} {root : Element} {m : Model} {a : α}
    (hread : read f root = .ok a) (h : (Model.ofDocument {} root).result = .ok m) : f m = a := by
  rw [read, h] at hread
  exact Except.ok.inj hread

/-- The positions of the fact types. -/
def factPositions (m : Model) : List Int := m.factTypes.map FactType.order

/-- The last clause of each schema. -/
def lastClauses (m : Model) : List (String × Option String) :=
  (m.schemas defaultTemplate).value.map fun a => (a.filename, a.lines.getLast?)

set_option maxRecDepth 100000 in
/-- The fact type moves behind the implied ones, and the schema about rooms is the same. -/
theorem unknown_elements_passed_over_rooms :
    ({} : Namespaces).Grown true (document [] [] []) annexed ∧
      ∃ m m' : Model, (Model.ofDocument {} (document [] [] [])).result = .ok m ∧
        (Model.ofDocument {} annexed).result = .ok m' ∧
        factPositions m = [0] ∧ factPositions m' = [2] ∧
        m'.schemas defaultTemplate = m.schemas defaultTemplate ∧
        lastClauses m =
          [("room_schema.rel",
            some "ic room_opens_types(v1) \x7b room_opens(v1) implies Room(v1) \x7d")] := by
  obtain ⟨m, r, hm, hannexed, hschemas⟩ := Model.unknown_elements_passed_over grown_document
  have hm' : (Model.ofDocument {} annexed).result = .ok (m.moved r) := by rw [hannexed]
  have hbefore : read factPositions (document [] [] []) = .ok [0] := by decide +kernel
  have hafter : read factPositions annexed = .ok [2] := by decide +kernel
  have hclauses : read lastClauses (document [] [] []) =
      .ok [("room_schema.rel",
        some "ic room_opens_types(v1) \x7b room_opens(v1) implies Room(v1) \x7d")] := by
    decide +kernel
  exact ⟨grown_document, m, m.moved r, hm, hm', eq_of_read hbefore hm, eq_of_read hafter hm',
    (hschemas _).1, eq_of_read hclauses hm⟩

end Annexes

end RoleSchema
