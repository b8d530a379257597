import RoleSchema.Proofs.Relation.Faults
import RoleSchema.Proofs.Schema.Independence

/-!
# Faults stay in their section

A fact type that cannot be translated because of a name, or whose clauses cannot be written, leaves
its header and one more diagnostic; nothing else of any schema depends on it. The two faults in the
structure of a model are not kept in: they end the run.

* `returns_factTypeSection_iff`: which faults end a run.
* `schemas_isolate_faults`: when there are schemas, and what a fault leaves of them.
* `Badges.schemas_end_on_identifiers`: badges that are said twice to identify persons, and badges
  that identify persons elsewhere.
-/

namespace RoleSchema

open RoleSchema.Rel (headerLine)

/-- What closes a section after a fault that is reported is one diagnostic about the fact type. -/
theorem emptySection_of_isReported (f : FactType) {fault : SchemaFault} (h : fault.IsReported) :
    ∃ finding : Diagnostic, finding.element = f.id ∧
      emptySection f fault = ⟨[.diagnostic finding], .ok [headerLine (factTypeHeader f)]⟩ := by
  cases fault with
  | naming n =>
    cases n with
    | notCapitalised name => exact ⟨.invalidName (.notCapitalised name) f.id, rfl, rfl⟩
    | noPlayer role => exact ⟨.malformedFactType f (.noPlayer role), rfl, rfl⟩
  | emission e => exact ⟨.emptyRelation f e, rfl, rfl⟩
  | repeatedUniqueness => cases h
  | identifierElsewhere => cases h
  | noKey => cases h
  | template e => cases h

namespace Model

variable {m : Model} {f : FactType} {template : String}

/-! ## One section -/

theorem factTypeLines_eq_error {fault : SchemaFault}
    (h : (m.factTypeLines f).result = .error fault) :
    fault.IsReported ∨ fault = .repeatedUniqueness ∧ m.RepeatsIdentifier f ∨
      fault = .identifierElsewhere ∧ m.IdentifiesElsewhere f := by
  rcases Reporting.result_bind_eq_error_iff.mp h with h | ⟨clauses, -, h⟩
  · exact factTypeClauses_eq_error h
  · obtain ⟨e, -, rfl⟩ := mapError_eq_error_iff.mp h
    exact Or.inl trivial

/-- A fault that is reported leaves the header, and one diagnostic after those found before it. -/
theorem factTypeSection_of_isReported {fault : SchemaFault}
    (h : (m.factTypeLines f).result = .error fault) (hf : fault.IsReported) :
    ∃ finding : Diagnostic, finding.element = f.id ∧
      m.factTypeSection f = ⟨(m.factTypeLines f).events ++ [.diagnostic finding],
        .ok [headerLine (factTypeHeader f)]⟩ := by
  obtain ⟨finding, hid, hclose⟩ := emptySection_of_isReported f hf
  refine ⟨finding, hid, ?_⟩
  simp only [factTypeSection, Reporting.recover, h, hclose]

theorem not_returns_factTypeSection {fault : SchemaFault}
    (h : (m.factTypeClauses f).result = .error fault)
    (hf : (emptySection f fault).result = .error fault) : ¬ (m.factTypeSection f).Returns := by
  have hlines : (m.factTypeLines f).result = .error fault :=
    Reporting.result_bind_eq_error_iff.mpr (Or.inl h)
  rintro ⟨lines, hs⟩
  simp only [factTypeSection, Reporting.recover, hlines, hf] at hs
  cases hs

/-- A section is formed, be it empty, unless the fact type lists an identifying constraint twice or
has its identifier elsewhere. -/
theorem returns_factTypeSection_iff :
    (m.factTypeSection f).Returns ↔ ¬ m.RepeatsIdentifier f ∧ ¬ m.IdentifiesElsewhere f := by
  constructor
  · intro h
    constructor
    · intro hr
      exact not_returns_factTypeSection (factTypeClauses_of_repeatsIdentifier hr) rfl h
    · intro he
      exact not_returns_factTypeSection (factTypeClauses_of_identifiesElsewhere he) rfl h
  · rintro ⟨hr, he⟩
    cases hlines : (m.factTypeLines f).result with
    | ok lines => exact ⟨lines, by simp only [factTypeSection, Reporting.recover, hlines]⟩
    | error fault =>
      rcases factTypeLines_eq_error hlines with hf | ⟨-, h⟩ | ⟨-, h⟩
      · obtain ⟨finding, -, hs⟩ := factTypeSection_of_isReported hlines hf
        exact ⟨_, by rw [hs]⟩
      · exact absurd h hr
      · exact absurd h he

/-! ## All schemas -/

/-- **Faults stay in their section.** If every concept has a file name, a run ends with schemas
exactly if no fact type that it translates lists an identifying constraint twice or has its
identifier elsewhere. Any other fault of a fact type leaves the header of its section and one
diagnostic about it, after what was found before. The schemas are those planned before any fact type
is translated, each section filled by its own fact type: no section and no other schema is different
for a fault. -/
theorem schemas_isolate_faults
    (ht : ∀ concept, ∃ filename, filenameFor template concept = .ok filename) :
    ((∃ artifacts, (m.schemas template).result = .ok artifacts) ↔
      ∀ d ∈ m.diagrams, ∀ f ∈ m.factTypesOn d,
        ¬ m.RepeatsIdentifier f ∧ ¬ m.IdentifiesElsewhere f) ∧
    (∀ f fault, (m.factTypeLines f).result = .error fault →
      ¬ m.RepeatsIdentifier f → ¬ m.IdentifiesElsewhere f →
      ∃ finding : Diagnostic, finding.element = f.id ∧
        m.factTypeSection f = ⟨(m.factTypeLines f).events ++ [.diagnostic finding],
          .ok [headerLine (factTypeHeader f)]⟩) ∧
    ∀ artifacts, (m.schemas template).result = .ok artifacts →
      artifacts = (m.diagrams.filterMap (m.plan? template)).map (Plan.artifact m.sectionOf) := by
  refine ⟨?_, ?_, ?_⟩
  · have hdiagrams : (∃ artifacts, (m.schemas template).result = .ok artifacts) ↔
        ∀ d ∈ m.diagrams, (m.schemaFor template d).Returns := returns_schemas_iff
    simpa only [returns_schemaFor_iff ht, returns_factTypeSection_iff] using hdiagrams
  · intro f fault h hr he
    rcases factTypeLines_eq_error h with hf | ⟨-, h⟩ | ⟨-, h⟩
    · exact factTypeSection_of_isReported h hf
    · exact absurd h hr
    · exact absurd h he
  · intro artifacts h
    have halone := returns_schemas_iff.mp ⟨_, h⟩
    obtain ⟨rfl, -⟩ := schemas_eq_ok h
    rw [List.map_filterMap]
    refine List.filterMap_congr fun d hd => ?_
    exact Reporting.value_of_ok (result_schemaFor (halone d hd))

/-- Where no reference mode is found, and the search for one does not fail, the structure of the model
is without faults. -/
theorem not_structural_of_match (h : m.matchReferenceMode f = .ok none) :
    ¬ m.RepeatsIdentifier f ∧ ¬ m.IdentifiesElsewhere f := by
  constructor
  · intro hr
    rw [matchReferenceMode_eq_error_iff.mpr ⟨rfl, hr⟩] at h
    cases h
  · rintro ⟨r, name, hmatch, -, -⟩
    rw [hmatch] at h
    cases h

end Model

/-! ## Badges -/

namespace Badges

def wearer : Role :=
  { id := some "wearer", factTypeId := some "wears", playerId := some "person" }

def worn : Role :=
  { id := some "worn", factTypeId := some "wears", playerId := some "badge" }

/-- Persons wear badges. -/
def wears (name : String) (uniquenessIds : List Id) : FactType where
  id := some "wears"
  name := name
  roles := [wearer, worn]
  uniquenessIds := uniquenessIds
  mandatoryIds := [some "all wear"]

def diagram : Diagram where
  id := some "diagram"
  name := "Person:concept"
  subjectRefs := [some "person", some "wears"]
  factTypeRefs := [some "wears"]

/-- Persons are identified by the constraint on one role. -/
def model (f : FactType) (identifier : Id) : Model where
  objects :=
    [{ id := some "person", name := "Person", kind := .entity,
       preferredIdentifier := some "one person" },
      { id := some "badge", name := "Badge", kind := .value }]
  factTypes := [f]
  uniquenessConstraints :=
    [{ id := some "one person", roleIds := [identifier], preferredIdentifierFor := some "person" },
      { id := some "one badge", roleIds := [some "wearer"] }]
  mandatoryConstraints := [{ id := some "all wear", roleIds := [some "wearer"] }]
  diagrams := [diagram]

/-- No schema is made where the badge is listed twice as the identifier of persons, nor where the
identifier is a role of no fact type at hand, though every concept has a file name. -/
theorem schemas_end_on_identifiers :
    (∀ concept, ∃ filename, filenameFor defaultTemplate concept = .ok filename) ∧
      ((model (wears "PersonWearsBadge" [some "one person", some "one person"]) worn.id).schemas
        defaultTemplate).result = .error .repeatedUniqueness ∧
      ((model (wears "PersonWearsBadge" [some "one person", some "one badge"])
        (some "issued")).schemas defaultTemplate).result = .error .identifierElsewhere := by
  refine ⟨fun concept => ⟨_, filenameFor_defaultTemplate concept⟩, ?_, ?_⟩
  · decide +kernel
  · decide +kernel

/-- A fact type whose name is no name of a relation. -/
def misnamed : FactType := wears "wears" [some "one person"]

theorem match_misnamed : (model misnamed worn.id).matchReferenceMode misnamed = .ok none := rfl

theorem factTypeLines_misnamed : ((model misnamed worn.id).factTypeLines misnamed).result =
    .error (.naming (.notCapitalised "wears")) := by decide +kernel

/-- The name leaves an empty section with one diagnostic, in a schema that is made all the same. -/
theorem schemas_isolate_misnamed :
    (∀ concept, ∃ filename, filenameFor defaultTemplate concept = .ok filename) ∧
      (∃ artifacts, ((model misnamed worn.id).schemas defaultTemplate).result = .ok artifacts ∧
        artifacts = ([diagram].filterMap ((model misnamed worn.id).plan? defaultTemplate)).map
          (Plan.artifact (model misnamed worn.id).sectionOf)) ∧
      ∃ finding : Diagnostic, finding.element = some "wears" ∧
        (model misnamed worn.id).factTypeSection misnamed =
          ⟨((model misnamed worn.id).factTypeLines misnamed).events ++ [.diagnostic finding],
            .ok [headerLine (factTypeHeader misnamed)]⟩ := by
  have htemplate : ∀ concept, ∃ filename, filenameFor defaultTemplate concept = .ok filename :=
    fun concept => ⟨_, filenameFor_defaultTemplate concept⟩
  have hfree := Model.not_structural_of_match match_misnamed
  have htranslated : (model misnamed worn.id).factTypesOn diagram = [misnamed] := by decide +kernel
  obtain ⟨hreturns, hsection, hplanned⟩ :=
    Model.schemas_isolate_faults (m := model misnamed worn.id) htemplate
  obtain ⟨artifacts, h⟩ := hreturns.mpr <| by
    intro d hd f hf
    obtain rfl := List.mem_singleton.mp hd
    rw [htranslated] at hf
    obtain rfl := List.mem_singleton.mp hf
    exact hfree
  exact ⟨htemplate, ⟨artifacts, h, hplanned artifacts h⟩,
    hsection misnamed _ factTypeLines_misnamed hfree.1 hfree.2⟩

end Badges

end RoleSchema
