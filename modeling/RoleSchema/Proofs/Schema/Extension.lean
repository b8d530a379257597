import RoleSchema.Proofs.Model.Extension
import RoleSchema.Proofs.Schema.Plan

/-!
# Schemas of models with further elements

Elements that a model does not know leave its schemas alone. A walk down from a concept does visit
further subtypes, but they are drawn on no diagram, and below them there is nothing that the model
knows; everything else that the translation asks is answered as before.

* `ExtendedBy.filter_reach`: what a walk visits besides is unknown.
* `ExtendedBy.schemas_unaffected`: the schemas, the findings and the lines of the log are the same.
-/

namespace RoleSchema

open RoleSchema.Rel (Clause)

namespace Model

variable {m m' : Model} {d : Diagram} {e : ObjectType} {f : FactType} {template : String}

/-! ## Elements of the model -/

theorem mem_objects_of_resolveConcept (h : m.resolveConcept d = .ok e) : e ∈ m.objects := by
  unfold resolveConcept at h
  split at h
  · cases h
  · split at h
    · cases h
    · next e' he =>
      split at h
      · cases h
        exact List.mem_of_find?_eq_some he
      · cases h

theorem mem_factTypes_of_factTypesInDiagram (h : f ∈ m.factTypesInDiagram d) :
    f ∈ m.factTypes := by
  unfold factTypesInDiagram at h
  obtain ⟨id, -, hid⟩ := List.mem_filterMap.mp (List.mem_eraseDups.mp h)
  exact (factTypeById_eq_some hid).2.1

theorem mem_factTypes_of_identifyingFactType (h : m.identifyingFactType e = some f) :
    f ∈ m.factTypes := by
  unfold identifyingFactType at h
  split at h
  · exact List.mem_of_find?_eq_some h
  · cases h

/-- The fact types of a schema are fact types of the model. -/
theorem mem_factTypes_of_factTypesFor {fs : List FactType}
    (h : (m.factTypesFor e d).result = .ok fs) : ∀ f ∈ fs, f ∈ m.factTypes := by
  have hdrawn : ∀ f ∈ m.factTypesInDiagram d, f ∈ m.factTypes :=
    fun f hf => mem_factTypes_of_factTypesInDiagram hf
  unfold factTypesFor at h
  split at h
  · cases h
    exact hdrawn
  · split at h
    · cases h
      exact hdrawn
    · next f hf =>
      cases h
      split
      · exact hdrawn
      · intro g hg
        rcases List.mem_append.mp hg with hg | hg
        · exact hdrawn g hg
        · rw [List.mem_singleton.mp hg]
          exact mem_factTypes_of_identifyingFactType hf

theorem knows_of_mem_columnRoles (hf : f ∈ m.factTypes) {role : Id}
    (h : role ∈ m.columnRoles f) : m.knows role = true := by
  rcases List.mem_append.mp h with h | h
  · obtain ⟨r, hr, rfl⟩ := List.mem_map.mp h
    exact knows_role hf hr (by simp [Role.mentions])
  · obtain ⟨u, hu, hr⟩ := List.mem_flatMap.mp h
    obtain ⟨id, -, hid⟩ := mem_uniquenessConstraintsOf.mp hu
    exact knows_of_uniqueness (uniquenessById_eq_some hid).2.1 (by
      simp [UniquenessConstraint.mentions, hr])

namespace ExtendedBy

/-! ## Fact types -/

/-- An extension agrees with the model on every fact type of the model. -/
theorem agreesOn (h : m.ExtendedBy m') (hf : f ∈ m.factTypes) : m.AgreesOn m' f where
  uniqueness := h.uniquenessConstraintsOf hf
  mandatory := h.mandatoryConstraintsOf hf
  identified u hu := h.entityIdentifiedBy (knows_of_factType hf (by simp [FactType.mentions, hu]))
  loneRole c hc := h.loneRoleOf (knows_of_factType hf (by
    rcases hc with hc | hc <;> simp [FactType.mentions, hc]))
  player _ hr := h.rolePlayer (knows_of_mem_columnRoles hf hr)
  dataType _ hr := h.dataTypeOfPlayer (knows_of_mem_columnRoles hf hr)

theorem factTypeSections (h : m.ExtendedBy m') {fs : List FactType}
    (hfs : ∀ f ∈ fs, f ∈ m.factTypes) : m'.factTypeSections fs = m.factTypeSections fs := by
  induction fs with
  | nil => rfl
  | cons f rest ih =>
    have hf := (h.agreesOn (hfs f (List.mem_cons_self ..))).factTypeSection
    have hrest := ih fun g hg => hfs g (List.mem_cons_of_mem _ hg)
    unfold Model.factTypeSections
    rw [hf, hrest]

theorem factTypesFor (h : m.ExtendedBy m') (hd : d ∈ m.diagrams) (he : e ∈ m.objects) :
    m'.factTypesFor e d = m.factTypesFor e d := by
  unfold Model.factTypesFor
  rw [h.factTypesInDiagram hd, h.identifyingFactType he]

/-! ## The hierarchy -/

/-- A walk in an extension visits what the walk in the model visits, and unknown types besides. -/
theorem filter_reach (h : m.ExtendedBy m') (visited' : List Id) (todo' : List ObjectType) :
    ∀ visited, (∀ id, m.knows id = true → (id ∈ visited' ↔ id ∈ visited)) →
      (m'.reach visited' todo').1.filter (fun e => m.knows e.id) =
        (m.reach visited (todo'.filter fun e => m.knows e.id)).1 := by
  -- the induction follows the walk in the extension; an unknown type only adds itself to the
  -- visited ids, since its subtypes are unknown as well
  induction visited', todo' using m'.reach_induction with
  | nil visited' => simp
  | seen visited' e todo' he ih =>
    intro visited hv
    rw [reach_cons_of_mem he]
    cases hk : m.knows e.id with
    | true =>
      rw [List.filter_cons, if_pos hk, reach_cons_of_mem ((hv _ hk).mp he)]
      exact ih visited hv
    | false =>
      rw [List.filter_cons, hk, if_neg Bool.false_ne_true]
      exact ih visited hv
  | fresh visited' e todo' he ih =>
    intro visited hv
    rw [reach_cons_of_notMem he]
    have hsub : (m'.subTypes e ++ todo').filter (fun e => m.knows e.id) =
        m.subTypes e ++ todo'.filter fun e => m.knows e.id := by
      rw [List.filter_append, h.filter_subTypes]
    cases hk : m.knows e.id with
    | true =>
      have hv' : ∀ id, m.knows id = true → (id ∈ e.id :: visited' ↔ id ∈ e.id :: visited) := by
        intro id hid
        rw [List.mem_cons, List.mem_cons, hv id hid]
      rw [List.filter_cons, if_pos hk, List.filter_cons, if_pos hk,
        reach_cons_of_notMem fun hmem => he ((hv _ hk).mpr hmem), ih _ hv', hsub]
    | false =>
      have hv' : ∀ id, m.knows id = true → (id ∈ e.id :: visited' ↔ id ∈ visited) := by
        intro id hid
        rw [List.mem_cons, hv id hid, or_iff_right (ne_of_knows hid hk).symm]
      rw [List.filter_cons, hk, if_neg Bool.false_ne_true, List.filter_cons, hk,
        if_neg Bool.false_ne_true, ih _ hv', hsub, subTypes_eq_nil_of_unknown hk, List.nil_append]

theorem placement (h : m.ExtendedBy m') (he : m.knows e.id = true) :
    m'.placement d e = m.placement d e := by
  unfold Model.placement Model.placementClauses
  rw [h.superTypes he]

/-- Nothing unknown is drawn. -/
theorem placement_of_unknown (hd : d ∈ m.diagrams) (he : m.knows e.id = false) :
    m'.placement d e = ([], []) := by
  unfold Model.placement
  rw [if_neg]
  intro hdrawn
  have hsubject := List.contains_iff_mem.mp hdrawn
  exact ne_of_knows (knows_of_diagram hd (by simp [Diagram.mentions, hsubject])) he rfl

/-- Any part of what a walk gives is the same. -/
theorem flatMap_reach (h : m.ExtendedBy m') (hd : d ∈ m.diagrams) (he : m.knows e.id = true)
    {α : Type} (part : List Clause × List Diagnostic → List α) (hpart : part ([], []) = []) :
    (m'.reach [] [e]).1.flatMap (fun e => part (m'.placement d e)) =
      (m.reach [] [e]).1.flatMap fun e => part (m.placement d e) := by
  have hreach := h.filter_reach [] [e] [] fun _ _ => Iff.rfl
  rw [List.filter_cons, if_pos he, List.filter_nil] at hreach
  have hunknown : ∀ t ∈ (m'.reach [] [e]).1, m.knows t.id = false →
      part (m'.placement d t) = [] := by
    intro t _ hk
    rw [placement_of_unknown hd hk, hpart]
  rw [← flatMap_filter_of hunknown, ← hreach]
  refine List.flatMap_congr fun t ht => ?_
  rw [h.placement (List.mem_filter.mp ht).2]

theorem entityTypeClauses (h : m.ExtendedBy m') (hd : d ∈ m.diagrams)
    (he : m.knows e.id = true) : m'.entityTypeClauses d e = m.entityTypeClauses d e := by
  have hclauses : (m'.walk d [] e).clauses = (m.walk d [] e).clauses := by
    rw [(walk_comesOf d [] e).1, (walk_comesOf d [] e).1]
    exact h.flatMap_reach hd he Prod.fst rfl
  have hfindings : (m'.walk d [] e).findings = (m.walk d [] e).findings := by
    rw [(walk_comesOf d [] e).2, (walk_comesOf d [] e).2]
    exact h.flatMap_reach hd he Prod.snd rfl
  simp only [Model.entityTypeClauses, hclauses, hfindings]

/-! ## Schemas -/

theorem schemaOf (h : m.ExtendedBy m') (hd : d ∈ m.diagrams) (he : e ∈ m.objects) :
    m'.schemaOf template e d = m.schemaOf template e d := by
  have hknown : m.knows e.id = true := knows_of_object he (by simp [ObjectType.mentions])
  unfold Model.schemaOf conceptSection
  rw [h.entityTypeClauses hd hknown, h.factTypesFor hd he]
  refine Reporting.bind_congr fun _ _ => Reporting.bind_congr fun _ _ =>
    Reporting.bind_congr fun fs hfs => ?_
  rw [h.factTypeSections (mem_factTypes_of_factTypesFor hfs)]

theorem schemaFor (h : m.ExtendedBy m') (hd : d ∈ m.diagrams) :
    m'.schemaFor template d = m.schemaFor template d := by
  unfold Model.schemaFor
  rw [h.resolveConcept hd]
  cases hc : m.resolveConcept d with
  | error fault => rfl
  | ok e => simp only [h.schemaOf hd (mem_objects_of_resolveConcept hc)]

theorem schemasOf (h : m.ExtendedBy m') {ds : List Diagram} (hds : ∀ d ∈ ds, d ∈ m.diagrams)
    (producers : List (String × String)) :
    m'.schemasOf template producers ds = m.schemasOf template producers ds := by
  induction ds generalizing producers with
  | nil => rfl
  | cons d rest ih =>
    have hrest := ih fun d' hd' => hds d' (List.mem_cons_of_mem _ hd')
    unfold Model.schemasOf
    simp only [h.schemaFor (hds d (List.mem_cons_self ..)), hrest]

theorem schemas (h : m.ExtendedBy m') (template : String) :
    m'.schemas template = m.schemas template := by
  unfold Model.schemas
  rw [h.diagrams]
  exact h.schemasOf (fun _ hd => hd) []

/-- **Further elements leave the schemas alone.** A run over an extension of a model has the schemas,
the findings and the lines of the log of a run over the model, whether it ends with schemas or with
a fault; so it does where the elements are put in order first, at whatever positions the further
ones come. -/
theorem schemas_unaffected (h : m.ExtendedBy m') (template : String) :
    m'.schemas template = m.schemas template ∧
      m'.sorted.schemas template = m.sorted.schemas template :=
  ⟨h.schemas template, h.sorted.schemas template⟩

end ExtendedBy

end Model

/-! ## Students and clubs -/

namespace Students

def person : ObjectType := { id := some "person", name := "Person", kind := .entity }

/-- Persons have a name. -/
def hasName : FactType where
  id := some "has name"
  name := "PersonHasName"
  roles := [{ id := some "who", factTypeId := some "has name", playerId := some "person" },
    { id := some "name of", factTypeId := some "has name", playerId := some "name" }]
  uniquenessIds := [some "one name"]

def name : ObjectType := { id := some "name", name := "Name", kind := .value }

def oneName : UniquenessConstraint := { id := some "one name", roleIds := [some "who"] }

/-- Persons and their names. -/
def model : Model where
  objects := [person, name]
  factTypes := [hasName]
  uniquenessConstraints := [oneName]
  diagrams := [{ id := some "diagram", name := "Person:concept",
                 subjectRefs := [some "person", some "has name"],
                 factTypeRefs := [some "has name"] }]

/-- Some persons are students, and persons join a club, which identifies them. By its position the
object type of students comes last. -/
def extended : Model where
  objects :=
    [{ id := some "student", name := "Student", kind := .entity, order := 1,
       preferredIdentifier := some "one club" },
      person,
      { id := some "club", name := "Club", kind := .value, dataType := some "text" },
      name]
  factTypes :=
    [{ id := some "joins", name := "PersonJoinsClub",
       roles := [{ id := some "member", factTypeId := some "joins", playerId := some "person" },
         { id := some "joined", factTypeId := some "joins", playerId := some "club" }],
       uniquenessIds := [some "one club"], mandatoryIds := [some "all join"] },
      hasName]
  subtypeFacts :=
    [{ id := some "special", subtypeId := some "student", supertypeId := some "person" }]
  uniquenessConstraints :=
    [oneName, { id := some "one club", roleIds := [some "member"],
                preferredIdentifierFor := some "person" }]
  mandatoryConstraints := [{ id := some "all join", roleIds := [some "member"] }]
  dataTypes := [{ id := some "text", kind := "VariableLengthTextDataType" }]
  diagrams := model.diagrams

theorem extendedBy_students : model.ExtendedBy extended where
  objects := by decide
  factTypes := by decide
  subtypeFacts := by decide
  uniquenessConstraints := by decide
  mandatoryConstraints := by decide
  dataTypes := by decide
  diagrams := rfl
  roles := by decide
  playedRoles := by decide
  identifiers := by decide
  subtypes := by decide
  names := by decide

/-- Students and clubs leave the schema of persons alone, though students are found below persons
and clubs are joined by them. -/
theorem schemas_unaffected_students :
    model.ExtendedBy extended ∧
      (extended.schemas defaultTemplate = model.schemas defaultTemplate ∧
        extended.sorted.schemas defaultTemplate = model.sorted.schemas defaultTemplate) ∧
      (model.schemas defaultTemplate).value.map Artifact.filename = ["person_schema.rel"] :=
  ⟨extendedBy_students, extendedBy_students.schemas_unaffected defaultTemplate, by decide +kernel⟩

end Students

end RoleSchema
