import RoleSchema.Proofs.Schema.Plan

/-!
# Schemas of separate diagrams

The schemas of a model are formed diagram by diagram into one report, and only the file names given
so far pass from one diagram to the next. So a run over all diagrams is made up of runs over each
diagram alone, and all that it adds is a warning where a file name comes up again. Within a diagram
each fact type has its own section and findings, whatever stands around it.

* `Model.schemasOf_eq_ok`: what a run over some of the diagrams gives, those before it being given.
* `Model.schemas_separate`: the run over all diagrams of a model.
* `Rooms.schemas_separate_rooms`: two diagrams with one file name and a section that ends half-way.
-/

namespace RoleSchema

namespace Model

section

variable (m : Model) (template : String)

/-- The schema of a diagram that is run alone, if it has one. -/
def artifactOf (d : Diagram) : Option Artifact := (m.schemaFor template d).value

/-- The latest of the diagrams so far whose schema has a file name. -/
def producer? (before : List Diagram) (filename : String) : Option Diagram :=
  findLast? (fun b => (m.artifactOf template b).any fun a => a.filename == filename) before

/-- The warning that the schema of a diagram has the file name of one before. -/
def duplicate? (before : List Diagram) (d : Diagram) : Option Diagnostic :=
  (m.artifactOf template d).bind fun a =>
    (m.producer? template before a.filename).map fun b => .duplicateArtifact b.name d a.filename

/-- The findings of diagrams that are run alone, after those of each the warning that its file name
came up before. -/
def separateFindings (before : List Diagram) : List Diagram → List Diagnostic
  | [] => []
  | d :: rest =>
    (m.schemaFor template d).diagnostics ++ (m.duplicate? template before d).toList ++
      separateFindings (before ++ [d]) rest

/-- The file names that diagrams have given with the diagram of each, the latest first. -/
def producersOf (before : List Diagram) : List (String × String) :=
  before.reverse.filterMap fun b => (m.artifactOf template b).map fun a => (a.filename, b.name)

end

variable {m : Model} {template : String}

theorem lookup_producersOf (before : List Diagram) (filename : String) :
    (m.producersOf template before).lookup filename =
      (m.producer? template before filename).map Diagram.name := by
  unfold producersOf producer? findLast?
  induction before.reverse with
  | nil => rfl
  | cons b rest ih =>
    cases ha : m.artifactOf template b with
    | none => simpa [ha] using ih
    | some a =>
      by_cases hf : a.filename = filename
      · simp [ha, hf]
      · have hf' : (filename == a.filename) = false := by simpa using fun h => hf h.symm
        simpa [ha, hf, hf', List.lookup_cons] using ih

theorem producersOf_of_none {before : List Diagram} {d : Diagram}
    (h : m.artifactOf template d = none) :
    m.producersOf template (before ++ [d]) = m.producersOf template before := by
  simp [producersOf, h]

theorem producersOf_of_some {before : List Diagram} {d : Diagram} {a : Artifact}
    (h : m.artifactOf template d = some a) :
    m.producersOf template (before ++ [d]) =
      (a.filename, d.name) :: m.producersOf template before := by
  simp [producersOf, h]

theorem duplicate?_eq_lookup {before : List Diagram} {d : Diagram} {a : Artifact}
    (h : m.artifactOf template d = some a) :
    ((m.producersOf template before).lookup a.filename).map
        (fun earlier => Diagnostic.duplicateArtifact earlier d a.filename) =
      m.duplicate? template before d := by
  rw [lookup_producersOf]
  simp only [duplicate?, h, Option.bind_some, Option.map_map]
  rfl

/-- A run over diagrams gives the schemas of each run alone and finds what each alone finds. -/
theorem schemasOf_eq_ok {before ds : List Diagram} {artifacts : List Artifact}
    (h : (m.schemasOf template (m.producersOf template before) ds).result = .ok artifacts) :
    artifacts = ds.filterMap (m.artifactOf template) ∧
      (m.schemasOf template (m.producersOf template before) ds).diagnostics =
        m.separateFindings template before ds := by
  induction ds generalizing before artifacts with
  | nil =>
    cases h
    exact ⟨rfl, rfl⟩
  | cons d rest ih =>
    have hd := (returns_schemasOf_iff.mp ⟨_, h⟩ d (List.mem_cons_self ..)).result_eq
    rw [List.filterMap_cons, separateFindings]
    cases ha : m.artifactOf template d with
    | none =>
      replace hd : (m.schemaFor template d).result = .ok none := hd.trans (congrArg _ ha)
      obtain ⟨hresult, hfound⟩ := schemasOf_cons_of_none hd
      rw [hresult, ← producersOf_of_none ha] at h
      rw [hfound, ← producersOf_of_none ha]
      obtain ⟨rfl, hrest⟩ := ih h
      refine ⟨rfl, ?_⟩
      simp only [hrest, duplicate?, ha, Option.bind_none, Option.toList_none, List.append_nil]
    | some a =>
      replace hd : (m.schemaFor template d).result = .ok (some a) := hd.trans (congrArg _ ha)
      obtain ⟨hresult, hfound⟩ := schemasOf_cons_of_some hd
      rw [hresult, ← producersOf_of_some ha] at h
      rw [hfound, ← producersOf_of_some ha, duplicate?_eq_lookup ha]
      obtain ⟨others, hothers, rfl⟩ := map_eq_ok_iff.mp h
      obtain ⟨rfl, hrest⟩ := ih hothers
      exact ⟨rfl, by rw [hrest]⟩

theorem schemas_eq_ok {artifacts : List Artifact} (h : (m.schemas template).result = .ok artifacts) :
    artifacts = m.diagrams.filterMap (m.artifactOf template) ∧
      (m.schemas template).diagnostics = m.separateFindings template [] m.diagrams := by
  have hfirst : (m.schemasOf template (m.producersOf template []) m.diagrams).result =
      .ok artifacts := h
  exact schemasOf_eq_ok hfirst

/-- The schema of a concept has the section of each of its fact types, and the findings of each. -/
theorem sections_of_schemaFor {d : Diagram} {e : ObjectType} (h : (m.schemaFor template d).Returns)
    (he : m.resolveConcept d = .ok e) :
    (∃ a, m.artifactOf template d = some a ∧
      a.lines = (m.conceptSection e d).value ++
        (m.factTypesOn d).flatMap fun f => "" :: m.sectionOf f) ∧
    (m.schemaFor template d).diagnostics =
      (m.conceptSection e d).diagnostics ++ (m.factTypesFor e d).diagnostics ++
        (m.factTypesOn d).flatMap fun f => (m.factTypeSection f).diagnostics := by
  have hschema : m.schemaFor template d = (m.schemaOf template e d).map some := schemaFor_of_ok he
  obtain ⟨o, ho⟩ := h
  have hvalue : m.artifactOf template d = o := Reporting.value_of_ok ho
  rw [hschema] at ho ⊢
  obtain ⟨a, ha, rfl⟩ := map_eq_ok_iff.mp ho
  obtain ⟨-, filename, -, hlines⟩ := schemaOf_eq_ok_iff.mp ha
  rw [factTypesOn_eq he]
  refine ⟨⟨a, hvalue, ?_⟩, diagnostics_schemaOf ⟨a, ha⟩⟩
  rw [hlines]
  rfl

/-- The diagrams of a model play no part in the section of a fact type. -/
theorem factTypeSection_withDiagrams (m : Model) (diagrams : List Diagram) (f : FactType) :
    ({ m with diagrams := diagrams } : Model).factTypeSection f = m.factTypeSection f :=
  AgreesOn.factTypeSection (m := m)
    { uniqueness := rfl
      mandatory := rfl
      identified := fun _ _ => rfl
      loneRole := fun _ _ => rfl
      player := fun _ _ => rfl
      dataType := fun _ _ => rfl }

/-- What a run over all diagrams has of the runs over each diagram alone. -/
structure FormedSeparately (m : Model) (template : String) (artifacts : List Artifact) : Prop where
  /-- A diagram that is run alone ends with its schema, or with none. -/
  alone : ∀ d ∈ m.diagrams, (m.schemaFor template d).result = .ok (m.artifactOf template d)
  /-- The run has these schemas, in the order of the diagrams. -/
  schemas : artifacts = m.diagrams.filterMap (m.artifactOf template)
  /-- The run finds what the diagrams alone find one after the other, with at most the warning on
  its file name after each. -/
  findings : (m.schemas template).diagnostics = m.separateFindings template [] m.diagrams
  /-- In the run of every diagram a fact type has the one section and the one list of findings that
  it has in the model. -/
  sections : ∀ d ∈ m.diagrams, ∀ e, m.resolveConcept d = .ok e →
    (∃ a, m.artifactOf template d = some a ∧
      a.lines = (m.conceptSection e d).value ++
        (m.factTypesOn d).flatMap fun f => "" :: m.sectionOf f) ∧
    (m.schemaFor template d).diagnostics =
      (m.conceptSection e d).diagnostics ++ (m.factTypesFor e d).diagnostics ++
        (m.factTypesOn d).flatMap fun f => (m.factTypeSection f).diagnostics
  /-- Other diagrams would leave the section of a fact type as it is. -/
  otherDiagrams : ∀ f diagrams,
    ({ m with diagrams := diagrams } : Model).factTypeSection f = m.factTypeSection f

/-- **Schemas are formed separately.** A run over all diagrams that ends with schemas is made up of
the runs over each diagram alone. -/
theorem schemas_separate {artifacts : List Artifact}
    (h : (m.schemas template).result = .ok artifacts) :
    m.FormedSeparately template artifacts where
  alone d hd := (returns_schemas_iff.mp ⟨_, h⟩ d hd).result_eq
  schemas := (schemas_eq_ok h).1
  findings := (schemas_eq_ok h).2
  sections d hd _ he := sections_of_schemaFor (returns_schemas_iff.mp ⟨_, h⟩ d hd) he
  otherDiagrams f diagrams := factTypeSection_withDiagrams m diagrams f

end Model

/-! ## Rooms -/

namespace Rooms

/-- Whether rooms are open, without a role. -/
def opens : FactType where
  id := some "opens"
  name := "RoomOpens"
  uniquenessIds := [some "at most once"]
  mandatoryIds := [some "all open"]

/-- A diagram of rooms and their openness. -/
def diagram (id name : String) : Diagram where
  id := some id
  name := name
  subjectRefs := [some "room", some "opens"]
  factTypeRefs := [some "opens"]

/-- Two diagrams about rooms, which have one file name. -/
def model : Model where
  objects := [{ id := some "room", name := "Room", kind := .entity }]
  factTypes := [opens]
  uniquenessConstraints := [{ id := some "at most once", roleIds := [] }]
  mandatoryConstraints := [{ id := some "all open", roleIds := [some "who"] }]
  diagrams := [diagram "rooms" "Room:concept", diagram "plan" "Room (plan):concept"]

/-- The schema of rooms, in which the section of the fact type is empty. -/
def artifact (d : Diagram) : Artifact where
  concept := "Room"
  diagram := d.name
  filename := "room_schema.rel"
  lines := ["", "// Constraints for the 'Room' concept and its subtypes",
    "ic room_is_entity(v) \x7b Room(v) implies Entity(v) \x7d", "",
    "// Constraints for relations modeled by the 'RoomOpens' fact type"]

/-- Both diagrams have their schema, though the section of the fact type ends half-way in each. -/
theorem schemas_separate_rooms :
    (model.schemas defaultTemplate).result = .ok (model.diagrams.map artifact) ∧
      model.FormedSeparately defaultTemplate (model.diagrams.map artifact) ∧
      (model.schemas defaultTemplate).diagnostics.map Diagnostic.code =
        ["unbound-mandatory-role", "empty-relation", "unbound-mandatory-role", "empty-relation",
          "duplicate-artifact"] := by
  have hrun : (model.schemas defaultTemplate).result = .ok (model.diagrams.map artifact) := by
    decide +kernel
  exact ⟨hrun, Model.schemas_separate hrun, by decide +kernel⟩

end Rooms

end RoleSchema
