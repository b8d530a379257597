import RoleSchema.CommandLine.Run
import RoleSchema.Proofs.Generation.Overwriting

/-!
# What the commands make of schemas

The listing of diagrams, the output of schemas and the files are made by three commands, and only
the last two build schemas. Whenever the schemas of a document can be built, the listing foretells
what becomes of each diagram, and the files hold the texts of the schemas.

* `Model.Becomes`: what becomes of a diagram in a run over the diagrams.
* `Model.prospect_becomes`: the listing foretells it.
* `artifactsOf_eq_ok`, `generate_of_artifactsOf`: the schemas of a document, and a run that writes
  them.
-/

namespace RoleSchema

open Files (Path Store)
open Text (Encoding)

/-- The file name that is foretold. -/
def Prospect.filename? : Prospect → Option String
  | .schema _ filename => some filename
  | _ => none

/-! ## Diagrams -/

namespace Model

variable {m : Model} {template : String} {d : Diagram} {p : Prospect}

/-- What becomes of a diagram that is run alone. -/
inductive Becomes (m : Model) (template : String) (d : Diagram) : Prospect → Prop
  | skipped (result : (m.schemaFor template d).result = .ok none)
    (silent : (m.schemaFor template d).diagnostics = []) : Becomes m template d .skipped
  | unresolved (fault : ConceptFault) (result : (m.schemaFor template d).result = .ok none)
    (found : (m.schemaFor template d).diagnostics = [.unresolvedConcept d fault]) :
    Becomes m template d .unresolved
  | schema (a : Artifact) (result : (m.schemaFor template d).result = .ok (some a))
    (found : (m.schemaFor template d).Finds Diagnostic.IsOfSchema) :
    Becomes m template d (.schema a.concept a.filename)

/-- A listing foretells what becomes of a diagram that does not end the run. -/
theorem prospect_becomes (h : (m.schemaFor template d).Returns) :
    ∃ p, m.prospect template d = .ok p ∧ m.Becomes template d p := by
  unfold prospect centralConcept
  cases ht : conceptToken d.name with
  | none =>
    have hschema : m.schemaFor template d =
        ⟨[.note .debug ("Diagram '" ++ d.name ++ "' is not a concept diagram, skipped")],
          .ok none⟩ := by
      unfold schemaFor
      rw [ht]
      rfl
    exact ⟨.skipped, rfl, .skipped (by rw [hschema]) (by rw [hschema]; rfl)⟩
  | some token =>
    cases hc : m.resolveConcept d with
    | error fault =>
      have hschema : m.schemaFor template d =
          ⟨[.diagnostic (.unresolvedConcept d fault)], .ok none⟩ := by
        unfold schemaFor
        rw [ht, hc]
        rfl
      exact ⟨.unresolved, rfl, .unresolved fault (by rw [hschema]) (by rw [hschema]; rfl)⟩
    | ok e =>
      obtain ⟨o, ho⟩ := h
      have hschema : m.schemaFor template d = (m.schemaOf template e d).map some :=
        schemaFor_of_ok hc
      rw [hschema] at ho
      obtain ⟨a, ha, -⟩ := map_eq_ok_iff.mp ho
      obtain ⟨-, filename, hfilename, rfl⟩ := schemaOf_eq_ok_iff.mp ha
      have hprospect : (filenameFor template e.name).map (Prospect.schema e.name) =
          .ok (.schema e.name filename) := by
        rw [hfilename]
        rfl
      have hresult : (m.schemaFor template d).result = .ok (some (Plan.artifact m.sectionOf
          ⟨e.name, d.name, filename, (m.conceptSection e d).value, (m.factTypesFor e d).value⟩)) := by
        rw [hschema]
        exact map_eq_ok_iff.mpr ⟨_, ha, rfl⟩
      have hfound : (m.schemaFor template d).Finds Diagnostic.IsOfSchema := by
        rw [hschema]
        exact ofSchema_schemaOf.map some
      exact ⟨_, hprospect, .schema _ hresult hfound⟩

namespace Becomes

/-- A diagram is skipped exactly if it has no schema and nothing is found. -/
theorem eq_skipped_iff (h : m.Becomes template d p) : p = .skipped ↔
    (m.schemaFor template d).result = .ok none ∧ (m.schemaFor template d).diagnostics = [] := by
  cases h with
  | skipped result silent => exact iff_of_true rfl ⟨result, silent⟩
  | unresolved fault result found =>
    refine iff_of_false (by simp) fun ⟨_, silent⟩ => ?_
    rw [found] at silent
    cases silent
  | schema a result found =>
    refine iff_of_false (by simp) fun ⟨hnone, _⟩ => ?_
    rw [result] at hnone
    cases hnone

/-- A concept is not resolved exactly if that is found. -/
theorem eq_unresolved_iff (h : m.Becomes template d p) : p = .unresolved ↔
    ∃ x ∈ (m.schemaFor template d).diagnostics, x.code = unresolvedCode := by
  cases h with
  | skipped result silent => simp [silent]
  | unresolved fault result found =>
    rw [found]
    exact iff_of_true rfl ⟨_, List.mem_singleton_self _, rfl⟩
  | schema a result found =>
    exact iff_of_false (by simp) fun ⟨x, hx, hcode⟩ => (found x hx).resolved hcode

/-- A concept and a file name are foretold exactly if the diagram has a schema with them. -/
theorem eq_schema_iff (h : m.Becomes template d p) {concept filename : String} :
    p = .schema concept filename ↔ ∃ a, (m.schemaFor template d).result = .ok (some a) ∧
      a.concept = concept ∧ a.filename = filename := by
  cases h with
  | skipped result _ | unresolved _ result _ => simp [result]
  | schema a result found => simp [result]

theorem filename?_eq (h : m.Becomes template d p) :
    p.filename? = (m.artifactOf template d).map Artifact.filename := by
  cases h with
  | skipped result _ | unresolved _ result _ | schema _ result _ =>
    rw [artifactOf, Reporting.value_of_ok result]
    rfl

end Becomes

/-- A row of a listing is about a diagram. -/
structure Lists (m : Model) (template : String) (d : Diagram) (row : ListedDiagram) : Prop where
  name : row.name = d.name
  factTypes : row.factTypes = (m.factTypesInDiagram d).length
  becomes : m.Becomes template d row.prospect

/-- Where no diagram ends the run, the listing has a row for each. -/
theorem exists_listing (h : ∀ d ∈ m.diagrams, (m.schemaFor template d).Returns) :
    ∃ rows, m.listing template = .ok rows ∧ List.Forall₂ (m.Lists template) m.diagrams rows := by
  refine exists_mapM_of_forall fun d hd => ?_
  obtain ⟨p, hp, hbecomes⟩ := prospect_becomes (h d hd)
  exact ⟨_, map_eq_ok_iff.mpr ⟨p, hp, rfl⟩, rfl, rfl, hbecomes⟩

/-- The file names of a listing are those of the schemas. -/
theorem filenames_of_lists {ds : List Diagram} {rows : List ListedDiagram}
    (h : List.Forall₂ (m.Lists template) ds rows) :
    rows.filterMap (fun row => row.prospect.filename?) =
      (ds.filterMap (m.artifactOf template)).map Artifact.filename := by
  induction h with
  | nil => rfl
  | @cons d row ds rows hrow _ ih =>
    rw [List.filterMap_cons, List.filterMap_cons, hrow.becomes.filename?_eq, ih]
    cases m.artifactOf template d <;> rfl

end Model

/-! ## Reading -/

section

variable {ε : Type} {P : Diagnostic → Prop}

theorem Namespaces.finds_subtypeFact? (n : Namespaces) (e : Xml.Element) (order : Nat) :
    (n.subtypeFact? e order : Reporting ε (Option SubtypeFact)).Finds P := by
  have hleft (what : String) : (leftOut e what : Reporting ε (Option SubtypeFact)).Finds P :=
    (Reporting.finds_note _ _).bind fun _ => Reporting.finds_pure _
  unfold subtypeFact?
  split
  · split
    · exact Reporting.finds_pure _
    · exact hleft _
  · exact hleft _

theorem Namespaces.finds_subtypeFacts (n : Namespaces) (es : List (Xml.Element × Nat)) :
    (n.subtypeFacts es : Reporting ε (List SubtypeFact)).Finds P := by
  induction es with
  | nil => exact Reporting.finds_pure _
  | cons e rest ih =>
    unfold subtypeFacts
    have hrest (fact : Option SubtypeFact) :
        (n.subtypeFacts rest >>= fun others => pure (fact.toList ++ others) :
          Reporting ε (List SubtypeFact)).Finds P :=
      ih.bind fun _ => Reporting.finds_pure _
    split
    · exact (n.finds_subtypeFact? e.1 e.2).bind hrest
    · exact (Reporting.finds_pure _).bind hrest

/-- Nothing is found where a model is read: what is wrong with it is found later or ends the run. -/
theorem Source.finds_model (s : Source) (n : Namespaces) (store : Store) :
    (s.model n store).Finds P := by
  have hload (r : DocumentReader) : (r.load store).Finds P := by
    unfold DocumentReader.load
    split
    · exact Reporting.finds_ofExcept _
    · refine (Reporting.finds_note _ _).bind fun _ => (Reporting.finds_ofExcept _).bind fun there => ?_
      have hread (path : Path) : (Reporting.ofExcept ((store.read path).mapError .unreadable) >>=
          fun bytes => Reporting.ofExcept ((Xml.Document.ofBytes store.codecs bytes).mapError .malformed) :
          Reporting ReadFault Xml.Element).Finds P :=
        (Reporting.finds_ofExcept _).bind fun _ => Reporting.finds_ofExcept _
      split
      · exact (Reporting.finds_fail _).bind fun _ => hread _
      · exact hread _
  have hmodel (r : DocumentReader) : r.model.Finds P := by
    unfold DocumentReader.model
    split
    · exact Reporting.finds_fail _
    · unfold Model.ofDocument
      split
      · exact Reporting.finds_fail _
      · exact (Namespaces.finds_subtypeFacts _ _).bind fun _ =>
          (Reporting.finds_note _ _).bind fun _ => Reporting.finds_pure _
  exact ((hload _).bind fun _ => Reporting.finds_pure _).bind hmodel

end

/-- The schemas of a document are those of its model, and so are the findings. -/
theorem artifactsOf_eq_ok {settings : Settings} {store : Store} {document : Path} {m : Model}
    {artifacts : List Artifact}
    (hm : (Source.model (.file document) settings.namespaces store).result = .ok m)
    (h : (m.schemas settings.generator.filenameTemplate).result = .ok artifacts) :
    (artifactsOf settings store document).result = .ok artifacts ∧
      (artifactsOf settings store document).diagnostics =
        (m.schemas settings.generator.filenameTemplate).diagnostics := by
  have hread : ((Source.model (.file document) settings.namespaces store).mapFault
      GenerationFault.reading).result = .ok m := mapError_eq_ok_iff.mpr hm
  have hsilent : (Source.model (.file document) settings.namespaces store).diagnostics = [] :=
    List.eq_nil_iff_forall_not_mem.mpr (Source.finds_model _ _ _)
  unfold artifactsOf
  rw [Reporting.result_bind_of_ok hread, Reporting.diagnostics_bind_of_ok hread]
  refine ⟨mapError_eq_ok_iff.mpr h, ?_⟩
  exact (congrArg (· ++ _) hsilent).trans (List.nil_append _)

/-! ## Writing -/

section

variable {P : Diagnostic → Prop} {settings : Settings} {store : Store} {document : Path}
  {directory : Option Path} {artifacts : List Artifact}

theorem finds_writeEach (encoding : Encoding) (directory : Path) (store : Store)
    (artifacts : List Artifact) : (writeEach encoding directory store artifacts).report.Finds P := by
  induction artifacts generalizing store with
  | nil => exact Reporting.finds_pure _
  | cons a rest ih =>
    unfold writeEach
    simp only
    split
    · exact Reporting.finds_fail _
    · split
      · exact Reporting.finds_fail _
      · split
        · exact Reporting.finds_fail _
        · exact (Reporting.finds_note _ _).bind fun _ => (ih _).bind fun _ => Reporting.finds_pure _

/-- Nothing is found where schemas are written. -/
theorem finds_writeArtifacts (encoding : Encoding) (directory : Path) (store : Store)
    (artifacts : List Artifact) :
    (writeArtifacts encoding directory store artifacts).report.Finds P := by
  unfold writeArtifacts
  split
  · exact Reporting.finds_fail _
  · exact finds_writeEach _ _ _ _

/-- After a run that ends, a file holds the text of the last schema that has its place. -/
theorem text_of_writeArtifacts {encoding : Encoding} {directory : Path} {before after : List Artifact}
    {a : Artifact} {written : List Path}
    (h : (writeArtifacts encoding directory store (before ++ a :: after)).report.result =
      .ok written)
    (hafter : ∀ b ∈ after,
      store.placeOf (directory / a.filename) ≠ store.placeOf (directory / b.filename)) :
    ∃ bytes, encoding.encode a.text = .ok bytes ∧
      (writeArtifacts encoding directory store (before ++ a :: after)).store.file?
        (store.placeOf (directory / a.filename)) = some bytes := by
  obtain ⟨made, hhere, -, hrun⟩ := writeArtifacts_eq_ok h
  have hplace (p : Path) : made.placeOf p = store.placeOf p := Store.placeOf_congr hhere p
  rw [hrun] at h ⊢
  rw [← hplace]
  refine file?_of_writeEach h fun b hb => ?_
  rw [hplace, hplace]
  exact hafter b hb

/-- A run that has built its schemas writes them, and finds what was found when they were built. -/
theorem generate_of_artifactsOf
    (h : (artifactsOf settings store document).result = .ok artifacts) :
    (generate settings store document directory).store =
        (writeArtifacts settings.generator.encoding.encoding
          (directory.getD settings.generator.outputDir) store artifacts).store ∧
      ∀ written, (writeArtifacts settings.generator.encoding.encoding
          (directory.getD settings.generator.outputDir) store artifacts).report.result =
            .ok written →
        (generate settings store document directory).report.result = .ok ⟨artifacts, written⟩ ∧
          (generate settings store document directory).report.diagnostics =
            (artifactsOf settings store document).diagnostics := by
  have hschemas : schemasIn settings store document = artifacts := Reporting.value_of_ok h
  rcases generate_cases settings store document directory with
    ⟨fault, hfault, -, -⟩ | ⟨stored, rfl, hstore, hresult⟩
  · rw [h] at hfault
    cases hfault
  · rw [hschemas] at hstore hresult
    refine ⟨hstore, fun written hwritten => ⟨?_, ?_⟩⟩
    · rw [hresult, hwritten]
      rfl
    · unfold generate
      simp only
      split
      · next fault hfault =>
        rw [Reporting.result_bind_of_ok rfl, h] at hfault
        cases hfault
      · next built hbuilt =>
        obtain rfl : artifacts = built := by
          rw [Reporting.result_bind_of_ok rfl, h] at hbuilt
          exact Except.ok.inj hbuilt
        have hwrites : (writeArtifacts settings.generator.encoding.encoding
            (directory.getD settings.generator.outputDir) store artifacts).report.diagnostics = [] :=
          List.eq_nil_iff_forall_not_mem.mpr (finds_writeArtifacts _ _ _ _)
        rw [Reporting.diagnostics_bind_of_ok hbuilt, Reporting.diagnostics_bind_of_ok hwritten,
          hwrites]
        exact List.append_nil _

end

end RoleSchema
