import RoleSchema.Proofs.Relation.Lines
import RoleSchema.Proofs.Schema.Extension

/-!
# Schemas as texts

Empty lines set the sections of a schema apart. If no name of a model has a line feed, no section
has an empty line of its own, and none of the lines of its clauses could be a header. The sections
can then be read off the text: the one that places the concept, and one for each fact type, each
with a header and a line for each clause.

* `Model.clausesIn`: the clauses in the section of a fact type.
* `text_inSections`: the text of a schema.
-/

namespace RoleSchema

open RoleSchema.Rel (Clause IsSection headerLine isSection_nil isSection_of_sectionLines
  oneLine_headerLine)

namespace Model

/-- The clauses in the section of a fact type: none where they cannot be formed or written. -/
def clausesIn (m : Model) (f : FactType) : List Clause :=
  match (m.factTypeLines f).result with
  | .ok _ => (m.factTypeClauses f).value
  | .error _ => []

/-- A text is in sections: between its empty lines are the section of the concept of a diagram and
that of each of the fact types, each a header and a line for each of its clauses. -/
def InSections (m : Model) (d : Diagram) (text : String) : Prop :=
  ∃ e placement sections, m.resolveConcept d = .ok e ∧
    InBlocks text (placement :: sections) ∧
    IsSection (conceptHeader e.name) (m.entityTypeClauses d e).value placement ∧
    List.Forall₂ (fun f block => IsSection (factTypeHeader f) (m.clausesIn f) block)
      (m.factTypesFor e d).value sections

variable {m : Model} {f : FactType}

theorem oneLine_factTypeHeader (h : OneLine f.name) : OneLine (factTypeHeader f) :=
  (OneLine.append (by decide) h).append (by decide)

theorem oneLine_conceptHeader {concept : String} (h : OneLine concept) :
    OneLine (conceptHeader concept) :=
  (OneLine.append (by decide) h).append (by decide)

/-- The section of a fact type is its header and a line for each clause in it, and no line of it is
empty. -/
theorem isSection_sectionOf (hm : m.NamesOnOneLine) (hf : f ∈ m.factTypes)
    (h : (m.factTypeSection f).Returns) :
    IsSection (factTypeHeader f) (m.clausesIn f) (m.sectionOf f) ∧
      ∀ line ∈ m.sectionOf f, OneLine line ∧ line ≠ "" := by
  have hheader := oneLine_factTypeHeader (hm.factType f hf)
  have hsection : (m.factTypeSection f).result = .ok (m.sectionOf f) := h.result_eq
  unfold factTypeSection Reporting.recover at hsection
  unfold clausesIn
  cases hlines : (m.factTypeLines f).result with
  | ok lines =>
    simp only [hlines, Except.ok.injEq] at hsection
    obtain ⟨clauses, hc, hl⟩ := factTypeLines_eq_ok_iff.mp hlines
    rw [← hsection, Reporting.value_of_ok hc]
    exact isSection_of_sectionLines hl hheader (hm.factTypeClauses hf hc)
  | error fault =>
    simp only [hlines] at hsection
    rw [emptySection_eq_ok hsection]
    exact ⟨isSection_nil _, by simpa using oneLine_headerLine hheader⟩

/-- **Schemas can be taken apart.** If no name of a model has a line feed, the text of the schema of
a diagram begins with a line feed and ends with one line feed after a line that is not empty, no two
empty lines follow each other, and what lies between the empty lines are the sections: that of the
concept, and that of each fact type in order. Each has its header and a line for each of its clauses
in order, which begins as a constraint or as an error. -/
theorem text_inSections {template : String} {d : Diagram} {a : Artifact} (hm : m.NamesOnOneLine)
    (h : (m.schemaFor template d).result = .ok (some a)) :
    m.InSections d a.text := by
  obtain ⟨e, he, ha⟩ := concept_of_schemaFor h
  obtain ⟨hreturns, filename, -, rfl⟩ := schemaOf_eq_ok_iff.mp ha
  have hconcept : e ∈ m.objects := mem_objects_of_resolveConcept he
  have hchosen : ∀ f ∈ (m.factTypesFor e d).value, f ∈ m.factTypes :=
    mem_factTypes_of_factTypesFor (returns_factTypesFor m e d).result_eq
  obtain ⟨placement, hp, hplaced⟩ := result_conceptSection m e d
  have hfirst := isSection_of_sectionLines hp (oneLine_conceptHeader (hm.object e hconcept))
    (hm.walk hconcept)
  have hrest (f : FactType) (hf : f ∈ (m.factTypesFor e d).value) :=
    isSection_sectionOf hm (hchosen f hf) (hreturns f hf)
  refine ⟨e, placement, (m.factTypesFor e d).value.map m.sectionOf, he, ?_, hfirst.1, ?_⟩
  · have hblocks : ∀ b ∈ placement :: (m.factTypesFor e d).value.map m.sectionOf,
        b ≠ [] ∧ ∀ line ∈ b, OneLine line ∧ line ≠ "" := by
      intro b hb
      rcases List.mem_cons.mp hb with rfl | hb
      · exact ⟨hfirst.1.ne_nil, hfirst.2⟩
      · obtain ⟨f, hf, rfl⟩ := List.mem_map.mp hb
        exact ⟨(hrest f hf).1.ne_nil, (hrest f hf).2⟩
    have htext := inBlocks_unlines (by simp) hblocks
    rw [List.flatMap_cons, List.flatMap_map] at htext
    unfold Artifact.text Plan.artifact
    rw [Reporting.value_of_ok hplaced]
    exact htext
  · rw [List.forall₂_map_right_iff, List.forall₂_same]
    exact fun f hf => (hrest f hf).1

end Model

/-! ## Loans -/

namespace Loans

/-- Members borrow books, each book at most one member's. -/
def borrows : FactType where
  id := some "borrows"
  name := "MemberBorrowsBook"
  roles :=
    [{ id := some "borrower", factTypeId := some "borrows", playerId := some "Member" },
      { id := some "lent", factTypeId := some "borrows", playerId := some "Book" }]
  uniquenessIds := [some "one borrower"]

/-- Members return books, under a name that is no name of a relation. -/
def returns : FactType where
  id := some "returns"
  name := "returns"
  roles :=
    [{ id := some "returner", factTypeId := some "returns", playerId := some "Member" },
      { id := some "returned", factTypeId := some "returns", playerId := some "Book" }]
  uniquenessIds := [some "once"]

def diagram : Diagram where
  id := some "diagram"
  name := "Book:concept"
  subjectRefs := [some "Book", some "returns", some "borrows"]
  factTypeRefs := [some "returns", some "borrows"]

def model : Model where
  objects :=
    [{ id := some "Member", name := "Member", kind := .entity },
      { id := some "Book", name := "Book", kind := .entity }]
  factTypes := [borrows, returns]
  uniquenessConstraints :=
    [{ id := some "one borrower", roleIds := [some "lent"] },
      { id := some "once", roleIds := [some "returned"] }]
  diagrams := [diagram]

def artifact : Artifact where
  concept := "Book"
  diagram := "Book:concept"
  filename := "book_schema.rel"
  lines := ["", "// Constraints for the 'Book' concept and its subtypes",
    "ic book_is_entity(v) \x7b Book(v) implies Entity(v) \x7d", "",
    "// Constraints for relations modeled by the 'returns' fact type", "",
    "// Constraints for relations modeled by the 'MemberBorrowsBook' fact type",
    "ic member_borrows_book_many_one \x7b function(member_borrows_book) \x7d",
    "ic member_borrows_book_types(v1, v2) \x7b member_borrows_book(v1, v2) implies " ++
      "Book(v1) and Member(v2) \x7d"]

theorem namesOnOneLine_model : model.NamesOnOneLine where
  object := by decide +kernel
  referenceMode := by decide +kernel
  factType := by decide +kernel
  role := by decide +kernel

/-- The schema of books has three sections, of which one is only a header. -/
theorem text_inSections_loans :
    model.NamesOnOneLine ∧
      (model.schemaFor defaultTemplate diagram).result = .ok (some artifact) ∧
      model.InSections diagram artifact.text := by
  have hschema : (model.schemaFor defaultTemplate diagram).result = .ok (some artifact) := by
    decide +kernel
  exact ⟨namesOnOneLine_model, hschema, Model.text_inSections namesOnOneLine_model hschema⟩

end Loans

end RoleSchema
