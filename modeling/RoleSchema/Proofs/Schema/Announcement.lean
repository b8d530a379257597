import Mathlib.Data.Finset.Card
import RoleSchema.Proofs.Schema.Independence

/-!
# File names that come up again

Of the schemas of one file name the later is written over the earlier. Each schema whose file name
has come up before is announced by a warning about its diagram that names the diagram of the latest
schema so far with the file name, and nothing else is found under the code of that warning. So there
are as many of these warnings as there are schemas beyond the different file names.

* `Model.code_of_schemaFor`: the codes of what is found for one diagram.
* `announcement?_append`, `length_announcements`: what the warnings name and how many there are.
* `Model.announces_of_schemas`: the warnings of a run over all diagrams.
-/

namespace RoleSchema

open RoleSchema.Rel (Predicate)

/-- The code of the warning that a file name comes up again. -/
def duplicateCode : String := "duplicate-artifact"

/-- The codes of all that is found for one diagram alone. -/
def ownCodes : List String :=
  ["invalid-name", "missing-identifying-fact-type", "unkeyed-named-role", "ambiguous-fact-type",
    "missing-uniqueness", "unbound-mandatory-role", "empty-relation", "malformed-fact-type",
    "unresolved-concept"]

/-- A finding about one diagram alone. -/
def Diagnostic.IsOwn (x : Diagnostic) : Prop := x.code ∈ ownCodes

theorem Diagnostic.IsOwn.code_ne {x : Diagnostic} (h : x.IsOwn) : x.code ≠ duplicateCode := by
  intro hx
  rw [Diagnostic.IsOwn, hx] at h
  exact absurd h (by decide)

/-- The code of the error that a diagram is named like one about a concept and has none. -/
def unresolvedCode : String := "unresolved-concept"

/-- A finding about the schema of one concept. -/
structure Diagnostic.IsOfSchema (x : Diagnostic) : Prop where
  own : x.IsOwn
  resolved : x.code ≠ unresolvedCode

theorem Diagnostic.isOfSchema_of_code {x : Diagnostic} (code : String)
    (h : code ∈ ownCodes ∧ code ≠ unresolvedCode) (hx : x.code = code) : x.IsOfSchema := by
  refine ⟨?_, hx ▸ h.2⟩
  rw [Diagnostic.IsOwn, hx]
  exact h.1

/-! ## What is found for one diagram -/

namespace Model

open Reporting (Finds)

variable {m : Model} {d : Diagram} {e : ObjectType} {f : FactType} {template : String}

theorem ofSchema_entityTypeClauses : (m.entityTypeClauses d e).Finds Diagnostic.IsOfSchema := by
  intro x hx
  have hfound : x ∈ (m.walk d [] e).findings := by
    simpa [Reporting.diagnostics, diagnosticsOf, entityTypeClauses, Event.diagnostic?] using hx
  rw [(walk_comesOf d [] e).2] at hfound
  obtain ⟨e', -, hplaced⟩ := List.mem_flatMap.mp hfound
  unfold placement at hplaced
  split at hplaced
  · split at hplaced
    · cases hplaced
    · rw [List.mem_singleton.mp hplaced]
      exact Diagnostic.isOfSchema_of_code "invalid-name" (by decide) rfl
  · cases hplaced

theorem ofSchema_conceptSection : (m.conceptSection e d).Finds Diagnostic.IsOfSchema :=
  ofSchema_entityTypeClauses.bind fun _ =>
    (Reporting.finds_ofExcept _).bind fun _ => Reporting.finds_pure _

theorem ofSchema_factTypesFor : (m.factTypesFor e d).Finds Diagnostic.IsOfSchema := by
  unfold factTypesFor
  split
  · exact Reporting.finds_pure _
  · split
    · have hfind : (Reporting.find (.missingIdentifyingFactType e) :
          Reporting SchemaFault Unit).Finds Diagnostic.IsOfSchema :=
        Reporting.finds_find
          (Diagnostic.isOfSchema_of_code "missing-identifying-fact-type" (by decide) rfl)
      exact hfind.bind fun _ => Reporting.finds_pure _
    · exact Reporting.finds_pure _

theorem ofSchema_relationsFor : (m.relationsFor f).Finds Diagnostic.IsOfSchema := by
  intro x hx
  rcases finding_of_relationsFor hx with ⟨r, rfl⟩ | rfl | rfl
  · exact Diagnostic.isOfSchema_of_code "unkeyed-named-role" (by decide) rfl
  · exact Diagnostic.isOfSchema_of_code "missing-uniqueness" (by decide) rfl
  · exact Diagnostic.isOfSchema_of_code "ambiguous-fact-type" (by decide) rfl

theorem ofSchema_relationsAndClauses : (m.relationsAndClauses f).Finds Diagnostic.IsOfSchema := by
  refine (Reporting.finds_ofExcept _).bind fun o => ?_
  cases o with
  | none =>
    exact ofSchema_relationsFor.bind fun _ =>
      (Reporting.finds_ofExcept _).bind fun _ => Reporting.finds_pure _
  | some r =>
    exact (Reporting.finds_note _ _).bind fun _ =>
      (Reporting.finds_ofExcept _).bind fun _ => Reporting.finds_pure _

theorem ofSchema_mandatoryClauses (p : Predicate) (constraints : List MandatoryConstraint) :
    (m.mandatoryClauses f p constraints).Finds Diagnostic.IsOfSchema := by
  induction constraints with
  | nil => exact Reporting.finds_pure _
  | cons c rest ih =>
    unfold mandatoryClauses
    have hrest : ∀ first, (m.mandatoryClauses f p rest >>= fun others =>
        pure (first ++ others)).Finds Diagnostic.IsOfSchema := fun first =>
      ih.bind fun _ => Reporting.finds_pure _
    cases m.mandatoryClause c p with
    | some clause => exact (Reporting.finds_pure _).bind hrest
    | none =>
      have hfind : (Reporting.find (.unboundMandatoryRole f c p) :
          Reporting SchemaFault Unit).Finds Diagnostic.IsOfSchema :=
        Reporting.finds_find
          (Diagnostic.isOfSchema_of_code "unbound-mandatory-role" (by decide) rfl)
      exact hfind.bind fun _ => (Reporting.finds_pure _).bind hrest

theorem ofSchema_columnClauses (relations : List Predicate) :
    (m.columnClauses f relations).Finds Diagnostic.IsOfSchema := by
  induction relations with
  | nil => exact Reporting.finds_pure _
  | cons p rest ih =>
    exact (ofSchema_mandatoryClauses p _).bind fun _ => ih.bind fun _ => Reporting.finds_pure _

theorem ofSchema_emptySection (fault : SchemaFault) :
    (emptySection f fault).Finds Diagnostic.IsOfSchema := by
  have hclosed (x : Diagnostic) (hx : x.IsOfSchema) : (Reporting.find x >>= fun _ =>
      pure [Rel.headerLine (factTypeHeader f)] : Reporting SchemaFault (List String)).Finds
        Diagnostic.IsOfSchema :=
    (Reporting.finds_find hx).bind fun _ => Reporting.finds_pure _
  unfold emptySection
  split
  · exact hclosed _ (Diagnostic.isOfSchema_of_code "invalid-name" (by decide) rfl)
  · exact hclosed _ (Diagnostic.isOfSchema_of_code "malformed-fact-type" (by decide) rfl)
  · exact hclosed _ (Diagnostic.isOfSchema_of_code "empty-relation" (by decide) rfl)
  · exact Reporting.finds_fail _

theorem ofSchema_factTypeSection : (m.factTypeSection f).Finds Diagnostic.IsOfSchema := by
  have hclauses : (m.factTypeClauses f).Finds Diagnostic.IsOfSchema :=
    ofSchema_relationsAndClauses.bind fun x =>
      (ofSchema_columnClauses x.1).bind fun _ => Reporting.finds_pure _
  exact (hclauses.bind fun _ => Reporting.finds_ofExcept _).recover ofSchema_emptySection

theorem ofSchema_factTypeSections (fs : List FactType) :
    (m.factTypeSections fs).Finds Diagnostic.IsOfSchema := by
  induction fs with
  | nil => exact Reporting.finds_pure _
  | cons f rest ih =>
    exact ofSchema_factTypeSection.bind fun _ => ih.bind fun _ => Reporting.finds_pure _

/-- What is found for the schema of a concept is not that the concept is not resolved. -/
theorem ofSchema_schemaOf : (m.schemaOf template e d).Finds Diagnostic.IsOfSchema :=
  (Reporting.finds_note _ _).bind fun _ => ofSchema_conceptSection.bind fun _ =>
    ofSchema_factTypesFor.bind fun fs => (ofSchema_factTypeSections fs).bind fun _ =>
      (Reporting.finds_ofExcept _).bind fun _ => Reporting.finds_pure _

/-- All that is found for a diagram is found under a code of its own. -/
theorem code_of_schemaFor : (m.schemaFor template d).Finds Diagnostic.IsOwn := by
  unfold schemaFor
  split
  · exact (Reporting.finds_note _ _).bind fun _ => Reporting.finds_pure _
  · split
    · next fault _ =>
      have hown : (Diagnostic.unresolvedConcept d fault).IsOwn := by
        show unresolvedCode ∈ ownCodes
        decide
      exact (Reporting.finds_find hown).bind fun _ => Reporting.finds_pure _
    · exact Finds.map (fun x hx => (ofSchema_schemaOf x hx).own) some

end Model

/-! ## File names that come up again -/

section

variable {before : List (Diagram × Artifact)} {p : Diagram × Artifact}

/-- Whether two schemas have one file name. -/
def sameFilename (p q : Diagram × Artifact) : Bool := q.2.filename == p.2.filename

/-- The warning on the schema of a diagram, the diagrams so far being given with their schemas. -/
def announcement? (before : List (Diagram × Artifact)) (p : Diagram × Artifact) :
    Option Diagnostic :=
  (findLast? (sameFilename p) before).map fun q => .duplicateArtifact q.1.name p.1 p.2.filename

/-- The warnings on schemas, one after the other. -/
def announcements (before : List (Diagram × Artifact)) : List (Diagram × Artifact) → List Diagnostic
  | [] => []
  | p :: rest => (announcement? before p).toList ++ announcements (before ++ [p]) rest

theorem sameFilename_iff {q : Diagram × Artifact} :
    sameFilename p q = true ↔ q.2.filename = p.2.filename := by
  simp [sameFilename]

/-- There is a warning exactly if the file name is that of a schema before. -/
theorem isSome_announcement?_iff :
    (announcement? before p).isSome = true ↔ ∃ q ∈ before, q.2.filename = p.2.filename := by
  simp [announcement?, findLast?, sameFilename]

/-- The warning names the diagram of the latest schema before that has the file name. -/
theorem announcement?_append {early between : List (Diagram × Artifact)} {q : Diagram × Artifact}
    (hq : q.2.filename = p.2.filename) (hbetween : ∀ r ∈ between, r.2.filename ≠ p.2.filename) :
    announcement? (early ++ q :: between) p =
      some (.duplicateArtifact q.1.name p.1 p.2.filename) := by
  have hnone : between.reverse.find? (sameFilename p) = none := by
    rw [List.find?_eq_none]
    intro r hr hsame
    exact hbetween r (List.mem_reverse.mp hr) (sameFilename_iff.mp hsame)
  have hlast : findLast? (sameFilename p) (early ++ q :: between) = some q := by
    unfold findLast?
    rw [List.reverse_append, List.reverse_cons, List.append_assoc, List.find?_append, hnone,
      Option.none_or, List.singleton_append, List.find?_cons_of_pos (sameFilename_iff.mpr hq)]
  rw [announcement?, hlast, Option.map_some]

theorem code_announcement? {x : Diagnostic} (h : announcement? before p = some x) :
    x.code = duplicateCode := by
  obtain ⟨q, -, rfl⟩ := Option.map_eq_some_iff.mp h
  rfl

/-- The different file names of schemas. -/
def filenames (ps : List (Diagram × Artifact)) : Finset String :=
  (ps.map fun p => p.2.filename).toFinset

/-- Each schema brings a new file name or a warning. -/
theorem card_filenames_step (before : List (Diagram × Artifact)) (p : Diagram × Artifact) :
    (announcement? before p).toList.length + (filenames (before ++ [p])).card =
      (filenames before).card + 1 := by
  have hinsert : filenames (before ++ [p]) = insert p.2.filename (filenames before) := by
    ext name
    simp [filenames]
  rw [hinsert]
  by_cases hmem : p.2.filename ∈ filenames before
  · have hsome : (announcement? before p).isSome = true := by
      simpa [isSome_announcement?_iff, filenames] using hmem
    obtain ⟨x, hx⟩ := Option.isSome_iff_exists.mp hsome
    rw [Finset.insert_eq_of_mem hmem, hx, Option.toList_some, List.length_singleton, Nat.add_comm]
  · have hnone : announcement? before p = none := by
      rw [← Option.not_isSome_iff_eq_none, isSome_announcement?_iff]
      simpa [filenames] using hmem
    rw [Finset.card_insert_of_notMem hmem, hnone, Option.toList_none, List.length_nil, Nat.zero_add]

/-- Schemas that follow others bring a new file name or a warning each. -/
theorem length_announcements (before ps : List (Diagram × Artifact)) :
    (announcements before ps).length + (filenames (before ++ ps)).card =
      (filenames before).card + ps.length := by
  induction ps generalizing before with
  | nil => simp [announcements]
  | cons p ps ih =>
    have hstep := card_filenames_step before p
    have hrest := ih (before ++ [p])
    rw [List.append_assoc, List.singleton_append] at hrest
    rw [announcements, List.length_append, List.length_cons]
    omega

end

namespace Model

section

variable (m : Model) (template : String)

/-- The diagrams that have a schema, each with its schema. -/
def producing (ds : List Diagram) : List (Diagram × Artifact) :=
  ds.filterMap fun d => (m.artifactOf template d).map fun a => (d, a)

end

variable {m : Model} {template : String}

/-- The warning after the findings of a diagram is the one on its schema. -/
theorem duplicate?_eq_announcement? {before : List Diagram} {d : Diagram} {a : Artifact}
    (h : m.artifactOf template d = some a) :
    m.duplicate? template before d = announcement? (m.producing template before) (d, a) := by
  have hlast : findLast? (sameFilename (d, a)) (m.producing template before) =
      (m.producer? template before a.filename).bind fun b =>
        (m.artifactOf template b).map fun a' => (b, a') := by
    unfold findLast? producing producer?
    rw [← List.filterMap_reverse, List.find?_filterMap]
    simp only [Option.any_map]
    rfl
  simp only [duplicate?, h, Option.bind_some, announcement?, hlast]
  cases hb : m.producer? template before a.filename with
  | none => rfl
  | some b =>
    -- the latest diagram with the file name has a schema
    have hschema := (of_findLast?_eq_some hb).2
    cases ha' : m.artifactOf template b with
    | none =>
      rw [ha'] at hschema
      cases hschema
    | some a' => simp [ha']

/-- Of all findings, the warnings on file names that come up again are those on the schemas. -/
theorem withCode_separateFindings (before ds : List Diagram) :
    Diagnostic.withCode duplicateCode (m.separateFindings template before ds) =
      announcements (m.producing template before) (m.producing template ds) := by
  induction ds generalizing before with
  | nil => rfl
  | cons d rest ih =>
    have hown : (m.schemaFor template d).diagnostics.filter (fun x => x.code == duplicateCode) =
        [] := by
      rw [List.filter_eq_nil_iff]
      intro x hx hcode
      exact (code_of_schemaFor x hx).code_ne (by simpa using hcode)
    have hrest := ih (before ++ [d])
    unfold Diagnostic.withCode at hrest ⊢
    rw [separateFindings, List.filter_append, List.filter_append, hown, List.nil_append, hrest]
    cases ha : m.artifactOf template d with
    | none => simp [producing, duplicate?, ha]
    | some a =>
      have hcode : ((m.duplicate? template before d).toList.filter
          fun x => x.code == duplicateCode) = (m.duplicate? template before d).toList := by
        rw [List.filter_eq_self]
        intro x hx
        rw [duplicate?_eq_announcement? ha, Option.mem_toList] at hx
        simp [code_announcement? hx]
      rw [hcode, duplicate?_eq_announcement? ha]
      simp [producing, ha, announcements]

/-- How a run over all diagrams announces that a file name comes up again. -/
structure Announces (m : Model) (template : String) (artifacts : List Artifact) : Prop where
  /-- The schemas are those of the diagrams that have one, in order. -/
  schemas : artifacts = (m.producing template m.diagrams).map Prod.snd
  /-- The run warns of what is announced on its schemas one after the other, and of nothing else
  under this code. -/
  warnings : Diagnostic.withCode duplicateCode (m.schemas template).diagnostics =
    announcements [] (m.producing template m.diagrams)
  /-- A schema is announced exactly if one before has its file name. -/
  repeated : ∀ before p after, m.producing template m.diagrams = before ++ p :: after →
    ((announcement? before p).isSome = true ↔ ∃ q ∈ before, q.2.filename = p.2.filename)
  /-- The warning is about the diagram of the schema, and names that of the latest one before. -/
  latest : ∀ early q between p after,
    m.producing template m.diagrams = (early ++ q :: between) ++ p :: after →
    q.2.filename = p.2.filename → (∀ r ∈ between, r.2.filename ≠ p.2.filename) →
    announcement? (early ++ q :: between) p =
      some (.duplicateArtifact q.1.name p.1 p.2.filename)
  /-- There are as many warnings as there are schemas beyond the different file names. -/
  count : (Diagnostic.withCode duplicateCode (m.schemas template).diagnostics).length +
    (artifacts.map Artifact.filename).toFinset.card = artifacts.length

/-- A run that ends with schemas announces each that has the file name of one before. -/
theorem announces_of_schemas {artifacts : List Artifact}
    (h : (m.schemas template).result = .ok artifacts) : m.Announces template artifacts := by
  obtain ⟨hartifacts, hfindings⟩ := schemas_eq_ok h
  have hschemas : artifacts = (m.producing template m.diagrams).map Prod.snd := by
    simp [hartifacts, producing, List.map_filterMap]
  have hwarnings : Diagnostic.withCode duplicateCode (m.schemas template).diagnostics =
      announcements [] (m.producing template m.diagrams) := by
    rw [hfindings, withCode_separateFindings]
    rfl
  have hcount := length_announcements [] (m.producing template m.diagrams)
  refine ⟨hschemas, hwarnings, fun _ _ _ _ => isSome_announcement?_iff,
    fun _ _ _ _ _ _ hq hbetween => announcement?_append hq hbetween, ?_⟩
  rw [hwarnings, hschemas, List.map_map, List.length_map]
  simpa [filenames, Function.comp_def] using hcount

end Model

end RoleSchema
