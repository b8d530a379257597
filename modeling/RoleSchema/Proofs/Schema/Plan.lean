import RoleSchema.Proofs.Hierarchy.Reach
import RoleSchema.Proofs.Relation.Agreement
import RoleSchema.Schema
import RoleSchema.Settings.Basic

/-!
# The plan of a schema

Which section a fact type has depends on the model and the fact type alone. The plan of a schema is
all that is settled before any fact type is translated: the concept, the file name, the section that
places the concept, and which fact types follow. Placing a concept and choosing the fact types never
fail, so that a schema is its plan with the sections of the fact types filled in.

* `result_schemaFor`: what becomes of a diagram.
* `returns_schemaFor_iff`: on what a diagram can fail.
* `diagnostics_schemaOf`: what is found on the way.
-/

namespace RoleSchema

open RoleSchema.Rel (Clause headerLine sectionLines)

/-! ## File names -/

section

open RoleSchema.Text (lower Template valueOf fill fillChars fillPieces_chars)

/-- The template of file names where the settings give none. -/
def defaultTemplate : String := ({} : Settings.Generator).filenameTemplate

theorem ofChars_defaultTemplate : Template.ofChars defaultTemplate.toList =
    ⟨.field { name := "concept".toList } :: "_schema.rel".toList.map .char, none⟩ := by decide

/-- With the default template every concept has a file name. -/
theorem filenameFor_defaultTemplate (concept : String) :
    filenameFor defaultTemplate concept = .ok (lower concept ++ "_schema.rel") := by
  have hvalue : valueOf [("concept", lower concept)] { name := "concept".toList } =
      .ok (lower concept).toList := rfl
  unfold filenameFor fill fillChars Template.fill
  rw [ofChars_defaultTemplate]
  simp only [Template.fillPieces, hvalue, fillPieces_chars]
  simp [bind, Except.bind, pure, Except.pure, Except.map, String.ofList_append]

end

/-! ## Plans -/

/-- What is settled of a schema before its fact types are translated. -/
structure Plan where
  concept : String
  diagram : String
  filename : String
  /-- The section that places the concept. -/
  placement : List String
  factTypes : List FactType

/-- The schema of a plan, with a section for each fact type. -/
def Plan.artifact (sectionOf : FactType → List String) (p : Plan) : Artifact where
  concept := p.concept
  diagram := p.diagram
  filename := p.filename
  lines := p.placement ++ p.factTypes.flatMap fun f => "" :: sectionOf f

namespace Model

variable (m : Model)

/-- The section of a fact type, empty if the run ends there. -/
def sectionOf (f : FactType) : List String := (m.factTypeSection f).value

/-- The fact types that are translated for a diagram. -/
def factTypesOn (d : Diagram) : List FactType :=
  match m.resolveConcept d with
  | .error _ => []
  | .ok e => (m.factTypesFor e d).value

/-- The plan of the schema of a diagram, if it is about a concept that has a file name. -/
def plan? (template : String) (d : Diagram) : Option Plan :=
  match m.resolveConcept d with
  | .error _ => none
  | .ok e => (filenameFor template e.name).toOption.map fun filename =>
      ⟨e.name, d.name, filename, (m.conceptSection e d).value, (m.factTypesFor e d).value⟩

variable {m} {template : String} {d : Diagram} {e : ObjectType}

/-! ## Placing a concept -/

theorem text_containmentClause (name sub super : String) :
    ∃ line, (containmentClause name sub super).text = .ok line := ⟨_, rfl⟩

/-- Placing a concept never fails. -/
theorem returns_conceptSection (m : Model) (e : ObjectType) (d : Diagram) :
    (m.conceptSection e d).Returns := by
  have htext : ∀ c ∈ (m.walk d [] e).clauses, c.text = .ok (c.text.toOption.getD "") := by
    intro c hc
    obtain ⟨name, sub, super, rfl⟩ := exists_of_mem_walk hc
    obtain ⟨line, hline⟩ := text_containmentClause name sub super
    rw [hline]
    rfl
  have hlines : sectionLines (conceptHeader e.name) (m.walk d [] e).clauses = .ok _ :=
    bind_eq_ok_iff.mpr ⟨_, mapM_of_ok htext, rfl⟩
  have hplaced : (m.entityTypeClauses d e).result = .ok (m.walk d [] e).clauses := rfl
  unfold conceptSection
  rw [Reporting.returns_bind_of_ok hplaced,
    Reporting.returns_bind_of_ok (Reporting.result_ofExcept_mapError hlines)]
  exact ⟨_, rfl⟩

/-- The section that places a concept: an empty line, the header, and a line for each clause. -/
theorem result_conceptSection (m : Model) (e : ObjectType) (d : Diagram) :
    ∃ lines, sectionLines (conceptHeader e.name) (m.walk d [] e).clauses = .ok lines ∧
      (m.conceptSection e d).result = .ok ("" :: lines) := by
  obtain ⟨placed, h⟩ := returns_conceptSection m e d
  have hplaced : (m.entityTypeClauses d e).result = .ok (m.walk d [] e).clauses := rfl
  unfold conceptSection at h ⊢
  rw [Reporting.result_bind_of_ok hplaced] at h ⊢
  obtain ⟨lines, hl, -⟩ := Reporting.result_bind_eq_ok_iff.mp h
  rw [Reporting.result_bind_of_ok hl]
  rw [Reporting.result_ofExcept, mapError_eq_ok_iff] at hl
  exact ⟨lines, hl, rfl⟩

/-! ## Sections of fact types -/

/-- The lines of a fact type are its clauses under its header. -/
theorem factTypeLines_eq_ok_iff {f : FactType} {lines : List String} :
    (m.factTypeLines f).result = .ok lines ↔ ∃ clauses, (m.factTypeClauses f).result = .ok clauses ∧
      sectionLines (factTypeHeader f) clauses = .ok lines := by
  unfold factTypeLines
  rw [Reporting.result_bind_eq_ok_iff]
  simp only [Reporting.result_ofExcept, mapError_eq_ok_iff]

/-- A section that cannot be formed is its header, if the run goes on. -/
theorem emptySection_eq_ok {f : FactType} {fault : SchemaFault} {lines : List String}
    (h : (emptySection f fault).result = .ok lines) : lines = [headerLine (factTypeHeader f)] := by
  unfold emptySection at h
  split at h <;> cases h <;> rfl

/-- Choosing the fact types of a schema never fails. -/
theorem returns_factTypesFor (m : Model) (e : ObjectType) (d : Diagram) :
    (m.factTypesFor e d).Returns := by
  unfold factTypesFor
  split
  · exact ⟨_, rfl⟩
  · split <;> exact ⟨_, rfl⟩

/-- Models that agree on a fact type give it the same section and find the same in it. -/
theorem AgreesOn.factTypeSection {m' : Model} {f : FactType} (h : m.AgreesOn m' f) :
    m'.factTypeSection f = m.factTypeSection f := by
  unfold Model.factTypeSection factTypeLines
  rw [h.factTypeClauses]

theorem result_factTypeSections {fs : List FactType}
    (h : ∀ f ∈ fs, (m.factTypeSection f).Returns) :
    (m.factTypeSections fs).result = .ok (fs.flatMap fun f => "" :: m.sectionOf f) := by
  induction fs with
  | nil => rfl
  | cons f rest ih =>
    have hf := (h f (List.mem_cons_self ..)).result_eq
    have hrest := ih fun g hg => h g (List.mem_cons_of_mem _ hg)
    rw [factTypeSections, Reporting.result_bind_of_ok hf, Reporting.result_bind_of_ok hrest]
    rfl

theorem diagnostics_factTypeSections {fs : List FactType}
    (h : ∀ f ∈ fs, (m.factTypeSection f).Returns) :
    (m.factTypeSections fs).diagnostics = fs.flatMap fun f => (m.factTypeSection f).diagnostics := by
  induction fs with
  | nil => rfl
  | cons f rest ih =>
    have hf := (h f (List.mem_cons_self ..)).result_eq
    have hrest : ∀ g ∈ rest, (m.factTypeSection g).Returns := fun g hg =>
      h g (List.mem_cons_of_mem _ hg)
    rw [factTypeSections, Reporting.diagnostics_bind_of_ok hf,
      Reporting.diagnostics_bind_of_ok (result_factTypeSections hrest), ih hrest]
    simp only [Reporting.diagnostics, Reporting.pure_eq, diagnosticsOf, List.filterMap_nil,
      List.append_nil, List.flatMap_cons]

/-- Sections that are formed are formed one by one. -/
theorem returns_of_factTypeSections {fs : List FactType} (h : (m.factTypeSections fs).Returns) :
    ∀ f ∈ fs, (m.factTypeSection f).Returns := by
  induction fs with
  | nil => simp
  | cons f rest ih =>
    obtain ⟨lines, h⟩ := h
    obtain ⟨first, hf, h⟩ := Reporting.result_bind_eq_ok_iff.mp h
    obtain ⟨others, hrest, -⟩ := Reporting.result_bind_eq_ok_iff.mp h
    intro g hg
    rcases List.mem_cons.mp hg with rfl | hg
    · exact ⟨first, hf⟩
    · exact ih ⟨others, hrest⟩ g hg

/-! ## The schema of a diagram -/

/-- The schema of a concept is its plan with the sections of its fact types. -/
theorem schemaOf_eq_ok_iff {a : Artifact} :
    (m.schemaOf template e d).result = .ok a ↔
      (∀ f ∈ (m.factTypesFor e d).value, (m.factTypeSection f).Returns) ∧
        ∃ filename, filenameFor template e.name = .ok filename ∧
          a = Plan.artifact m.sectionOf
            ⟨e.name, d.name, filename, (m.conceptSection e d).value, (m.factTypesFor e d).value⟩ := by
  have hplace := (returns_conceptSection m e d).result_eq
  have hchosen := (returns_factTypesFor m e d).result_eq
  unfold schemaOf
  rw [Reporting.result_bind_of_ok rfl, Reporting.result_bind_of_ok hplace,
    Reporting.result_bind_of_ok hchosen, Reporting.result_bind_eq_ok_iff]
  constructor
  · rintro ⟨sections, hs, h⟩
    have hreturns := returns_of_factTypeSections ⟨sections, hs⟩
    obtain ⟨filename, hf, h⟩ := Reporting.result_bind_eq_ok_iff.mp h
    rw [Reporting.result_ofExcept, mapError_eq_ok_iff] at hf
    rw [result_factTypeSections hreturns] at hs
    cases hs
    cases h
    exact ⟨hreturns, filename, hf, rfl⟩
  · rintro ⟨hreturns, filename, hf, rfl⟩
    refine ⟨_, result_factTypeSections hreturns, ?_⟩
    rw [Reporting.result_bind_of_ok (Reporting.result_ofExcept_mapError hf)]
    rfl

/-- What is found for a schema: first where its concept is placed, then where its fact types are
chosen, then in one section after the other. -/
theorem diagnostics_schemaOf (h : (m.schemaOf template e d).Returns) :
    (m.schemaOf template e d).diagnostics =
      (m.conceptSection e d).diagnostics ++ (m.factTypesFor e d).diagnostics ++
        (m.factTypesFor e d).value.flatMap fun f => (m.factTypeSection f).diagnostics := by
  obtain ⟨a, h⟩ := h
  obtain ⟨hreturns, filename, hf, -⟩ := schemaOf_eq_ok_iff.mp h
  have hplace := (returns_conceptSection m e d).result_eq
  have hchosen := (returns_factTypesFor m e d).result_eq
  have hsections := result_factTypeSections hreturns
  have hname := Reporting.result_ofExcept_mapError (f := SchemaFault.template) hf
  unfold schemaOf
  rw [Reporting.diagnostics_bind_of_ok rfl, Reporting.diagnostics_bind_of_ok hplace,
    Reporting.diagnostics_bind_of_ok hchosen, Reporting.diagnostics_bind_of_ok hsections,
    Reporting.diagnostics_bind_of_ok hname, diagnostics_factTypeSections hreturns]
  simp [Reporting.diagnostics, Reporting.note, Reporting.report, diagnosticsOf, Event.diagnostic?,
    Reporting.ofExcept]

theorem schemaFor_of_error {fault : ConceptFault} (h : m.resolveConcept d = .error fault) :
    (m.schemaFor template d).result = .ok none := by
  unfold schemaFor
  rw [h]
  split <;> rfl

theorem schemaFor_of_ok (h : m.resolveConcept d = .ok e) :
    m.schemaFor template d = (m.schemaOf template e d).map some := by
  have htoken : conceptToken d.name ≠ none := by
    intro hnone
    simp only [resolveConcept, hnone] at h
    cases h
  unfold schemaFor
  rw [h]
  split
  · next hnone => exact absurd hnone htoken
  · rfl

theorem factTypesOn_eq (h : m.resolveConcept d = .ok e) :
    m.factTypesOn d = (m.factTypesFor e d).value := by
  simp only [factTypesOn, h]

/-- A diagram that has a schema is about a concept, of which it has the schema. -/
theorem concept_of_schemaFor {a : Artifact} (h : (m.schemaFor template d).result = .ok (some a)) :
    ∃ e, m.resolveConcept d = .ok e ∧ (m.schemaOf template e d).result = .ok a := by
  cases hc : m.resolveConcept d with
  | error fault =>
    rw [schemaFor_of_error hc] at h
    cases h
  | ok e =>
    rw [schemaFor_of_ok hc] at h
    obtain ⟨a', ha, h⟩ := map_eq_ok_iff.mp h
    cases h
    exact ⟨e, rfl, ha⟩

/-- What becomes of a diagram is its plan with the sections of its fact types. -/
theorem result_schemaFor (h : (m.schemaFor template d).Returns) :
    (m.schemaFor template d).result =
      .ok ((m.plan? template d).map (Plan.artifact m.sectionOf)) := by
  cases hc : m.resolveConcept d with
  | error fault =>
    rw [schemaFor_of_error hc]
    simp only [plan?, hc, Option.map_none]
  | ok e =>
    obtain ⟨o, ho⟩ := h
    rw [schemaFor_of_ok hc] at ho ⊢
    obtain ⟨a, ha, rfl⟩ := map_eq_ok_iff.mp ho
    obtain ⟨-, filename, hf, rfl⟩ := schemaOf_eq_ok_iff.mp ha
    refine map_eq_ok_iff.mpr ⟨_, ha, ?_⟩
    simp only [plan?, hc, hf, Except.toOption, Option.map_some]

/-- A diagram fails only on its fact types, if every concept has a file name. -/
theorem returns_schemaFor_iff
    (ht : ∀ concept, ∃ filename, filenameFor template concept = .ok filename) :
    (m.schemaFor template d).Returns ↔
      ∀ f ∈ m.factTypesOn d, (m.factTypeSection f).Returns := by
  cases hc : m.resolveConcept d with
  | error fault => simpa [factTypesOn, hc] using ⟨_, schemaFor_of_error hc⟩
  | ok e =>
    obtain ⟨filename, hf⟩ := ht e.name
    rw [schemaFor_of_ok hc]
    simp only [factTypesOn, hc]
    constructor
    · rintro ⟨o, ho⟩
      obtain ⟨a, ha, -⟩ := map_eq_ok_iff.mp ho
      exact (schemaOf_eq_ok_iff.mp ha).1
    · intro hreturns
      exact ⟨_, map_eq_ok_iff.mpr ⟨_, schemaOf_eq_ok_iff.mpr ⟨hreturns, filename, hf, rfl⟩, rfl⟩⟩

/-! ## The schemas of diagrams -/

section

variable {producers : List (String × String)} {rest : List Diagram}

/-- A diagram without a schema leaves the others as they are. -/
theorem schemasOf_cons_of_none (h : (m.schemaFor template d).result = .ok none) :
    (m.schemasOf template producers (d :: rest)).result =
        (m.schemasOf template producers rest).result ∧
      (m.schemasOf template producers (d :: rest)).diagnostics =
        (m.schemaFor template d).diagnostics ++
          (m.schemasOf template producers rest).diagnostics := by
  rw [schemasOf, Reporting.result_bind_of_ok h, Reporting.diagnostics_bind_of_ok h]
  exact ⟨rfl, rfl⟩

/-- A diagram with a schema puts it in front of the others, after a warning if its file name has
come up before. -/
theorem schemasOf_cons_of_some {a : Artifact}
    (h : (m.schemaFor template d).result = .ok (some a)) :
    (m.schemasOf template producers (d :: rest)).result =
        (m.schemasOf template ((a.filename, d.name) :: producers) rest).result.map (a :: ·) ∧
      (m.schemasOf template producers (d :: rest)).diagnostics =
        (m.schemaFor template d).diagnostics ++
          ((producers.lookup a.filename).map fun earlier =>
            Diagnostic.duplicateArtifact earlier d a.filename).toList ++
          (m.schemasOf template ((a.filename, d.name) :: producers) rest).diagnostics := by
  rw [schemasOf, Reporting.result_bind_of_ok h, Reporting.diagnostics_bind_of_ok h]
  cases hname : producers.lookup a.filename with
  | none =>
    simp only [hname]
    rw [Reporting.result_bind_pure, Reporting.diagnostics_bind_pure]
    exact ⟨rfl, by simp⟩
  | some earlier =>
    have hfind : (Reporting.find (.duplicateArtifact earlier d a.filename) :
        Reporting SchemaFault Unit).result = .ok () := rfl
    simp only [hname]
    rw [Reporting.result_bind_of_ok hfind, Reporting.diagnostics_bind_of_ok hfind,
      Reporting.result_bind_pure, Reporting.diagnostics_bind_pure, List.append_assoc]
    exact ⟨rfl, rfl⟩

/-- A run over diagrams ends with their schemas exactly if each alone does. -/
theorem returns_schemasOf_iff :
    (m.schemasOf template producers rest).Returns ↔
      ∀ d ∈ rest, (m.schemaFor template d).Returns := by
  induction rest generalizing producers with
  | nil => simpa using ⟨_, rfl⟩
  | cons d rest ih =>
    simp only [List.forall_mem_cons]
    constructor
    · rintro ⟨artifacts, h⟩
      have hd : (m.schemaFor template d).Returns := by
        rw [schemasOf] at h
        obtain ⟨o, ho, -⟩ := Reporting.result_bind_eq_ok_iff.mp h
        exact ⟨o, ho⟩
      refine ⟨hd, ?_⟩
      obtain ⟨o, ho⟩ := hd
      cases o with
      | none =>
        rw [(schemasOf_cons_of_none ho).1] at h
        exact ih.mp ⟨_, h⟩
      | some a =>
        rw [(schemasOf_cons_of_some ho).1] at h
        obtain ⟨others, h, -⟩ := map_eq_ok_iff.mp h
        exact ih.mp ⟨_, h⟩
    · rintro ⟨⟨o, ho⟩, hrest⟩
      cases o with
      | none =>
        obtain ⟨artifacts, h⟩ := ih.mpr hrest
        exact ⟨_, (schemasOf_cons_of_none ho).1.trans h⟩
      | some a =>
        obtain ⟨artifacts, h⟩ := ih.mpr hrest
        exact ⟨_, (schemasOf_cons_of_some ho).1.trans (map_eq_ok_iff.mpr ⟨_, h, rfl⟩)⟩

theorem returns_schemas_iff :
    (m.schemas template).Returns ↔ ∀ d ∈ m.diagrams, (m.schemaFor template d).Returns :=
  returns_schemasOf_iff

end

end Model

end RoleSchema
