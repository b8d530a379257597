import RoleSchema.Proofs.Naming.Words
import RoleSchema.Proofs.Relation.Coverage
import RoleSchema.Proofs.Relation.Faults

/-!
# Names that are given by roles

Where roles have names, the relations of a fact type bear these, and no name has to be formed from
the names of the fact type, of the players of its roles, or of reference modes. Only in a reference
mode the name of the entity type is formed all the same, before it is known whether it is needed; so
a name that cannot be formed there ends the translation of the fact type.

* `Model.HasExplicitNames`: fact types whose roles have the names of the relations.
* `Model.KeepsExplicitNames`: what the relations of such fact types are to be called.
* `Model.keepsExplicitNames_iff`: when they are called so.
* `Stamps.misnamed_collector`: the fault in a name that is not needed.
-/

namespace RoleSchema

open RoleSchema.Rel (Predicate)

/-- The roles of a fact type have names for its relations: both roles of a reference mode, or some
role of any other fact type. -/
def Model.HasExplicitNames (m : Model) (f : FactType) : Prop :=
  (∃ r, m.matchReferenceMode f = .ok (some r) ∧ ∀ role ∈ f.roles, role.name ≠ "") ∨
    m.IsNamedByRoles f

/-- The named roles of a fact type that some uniqueness constraint leaves out. -/
def Model.keyedRoles (m : Model) (f : FactType) : List Role :=
  f.roles.filter fun r => r.name ≠ "" && (m.uniquenessConstraintsOf f).any fun u => !u.spans r.id

/-- A relation bears the name of the role that is its value. -/
def Rel.Predicate.IsNamedAfter (p : Predicate) (r : Role) : Prop :=
  p.name = r.name ∧ p.value = [r.id]

/-- The relations of a fact type have their names from its roles, and no other name is needed. -/
structure Model.KeepsExplicitNames (m : Model) (f : FactType) : Prop where
  /-- The fact type has all its clauses, unless the role of its identifier is elsewhere. -/
  faultless : ∀ fault, (m.factTypeClauses f).result = .error fault →
    fault = .identifierElsewhere ∧ m.IdentifiesElsewhere f
  /-- In a reference mode there is a relation for each role. -/
  ofMode : ∀ r relations whole, m.matchReferenceMode f = .ok (some r) →
    (m.relationsAndClauses f).result = .ok (relations, whole) →
    ∃ roles, roles.Perm f.roles ∧ List.Forall₂ Predicate.IsNamedAfter relations roles
  /-- Otherwise there is one for each named role that has a key, in the order of the roles. -/
  ofRoles : ∀ relations whole, m.IsNamedByRoles f →
    (m.relationsAndClauses f).result = .ok (relations, whole) →
    List.Forall₂ Predicate.IsNamedAfter relations (m.keyedRoles f)

namespace Model

variable {m : Model} {f : FactType} {r : ReferenceMode}

/-! ## Reference modes -/

/-- With names for both roles, the name of the entity type is formed and not used. -/
theorem referenceModeRelations_of_named {identifier : Role} {name : String}
    (hname : snakeCase r.entity.name = .ok name) (hi : r.identifierRole = some identifier)
    (hidentifier : identifier.name ≠ "") (hentity : r.entityRole.name ≠ "") :
    m.referenceModeRelations r = .ok
      { forward := ⟨identifier.name, r.entityUniqueness, [r.entityRole.id], [identifier.id]⟩
        inverse := ⟨r.entityRole.name, r.identifierUniqueness, [identifier.id],
          [r.entityRole.id]⟩ } := by
  unfold referenceModeRelations
  rw [hname, hi]
  simp only [ne_eq, hidentifier, hentity, not_false_eq_true, if_true]
  rfl

theorem referenceModeRelations_of_misnamed (h : ¬ BeginsWithCapital r.entity.name.toList) :
    m.referenceModeRelations r = .error (.naming (.notCapitalised r.entity.name)) := by
  unfold referenceModeRelations
  rw [snakeCase_of_not_beginsWithCapital h]
  rfl

/-- The two roles of a reference mode are the roles of the fact type. -/
theorem Identifies.roles_perm {identifier : Role} (h : m.Identifies f r)
    (hi : r.identifierRole = some identifier) : [identifier, r.entityRole].Perm f.roles := by
  obtain ⟨hmem, hid⟩ := h.identifierRole_spec hi
  refine (perm_pair_of_mem h.twoRoles hmem h.entityRole_mem ?_).symm
  rintro rfl
  exact h.entityRole_ne hid

/-! ## Named roles -/

/-- The relations of named roles bear their names, one for each role with a key. -/
theorem forall₂_namedRelations (roles : List Role) :
    List.Forall₂ Predicate.IsNamedAfter (roles.filterMap (m.namedRelation? f))
      (roles.filter fun r => r.name ≠ "" &&
        (m.uniquenessConstraintsOf f).any fun u => !u.spans r.id) := by
  induction roles with
  | nil => exact .nil
  | cons r rest ih =>
    by_cases hn : r.name = ""
    · have hnone : m.namedRelation? f r = none := if_pos hn
      rwa [List.filterMap_cons_none hnone, List.filter_cons_of_neg (by simp [hn])]
    cases hu : m.uniquenessExcludingRole r.id f with
    | none =>
      have hnone : m.namedRelation? f r = none := by simp [namedRelation?, hn, hu]
      have hspanned := uniquenessExcludingRole_eq_none_iff.mp hu
      rw [List.filterMap_cons_none hnone, List.filter_cons_of_neg]
      · exact ih
      · simpa [hn, UniquenessConstraint.spans] using hspanned
    | some u =>
      have hsome : m.namedRelation? f r = some ⟨r.name, u.id, u.roleIds, [r.id]⟩ := by
        simp [namedRelation?, hn, hu]
      obtain ⟨hmem, hout⟩ := uniquenessExcludingRole_eq_some hu
      rw [List.filterMap_cons_some hsome, List.filter_cons_of_pos]
      · exact .cons ⟨rfl, rfl⟩ ih
      · simpa [hn, UniquenessConstraint.spans] using ⟨u, hmem, hout⟩

theorem result_relationsAndClauses_of_isNamedByRoles (h : m.IsNamedByRoles f) :
    (m.relationsAndClauses f).result = .ok (f.roles.filterMap (m.namedRelation? f),
      (f.roles.filterMap (m.namedRelation? f)).flatMap (m.wholeClausesOf f)) := by
  rw [result_relationsAndClauses_of_none h.1, result_relationsFor, if_pos h.2]
  rfl

/-! ## Fact types -/

/-- A reference mode with names for both roles has its two relations, unless the role of its
identifier is elsewhere. -/
theorem referenceModeRelations_cases (hmatch : m.matchReferenceMode f = .ok (some r))
    (hnamed : ∀ role ∈ f.roles, role.name ≠ "") (hname : BeginsWithCapital r.entity.name.toList) :
    (m.referenceModeRelations r = .error .identifierElsewhere ∧ m.IdentifiesElsewhere f) ∨
      ∃ identifier rel, r.identifierRole = some identifier ∧ m.referenceModeRelations r = .ok rel ∧
        rel.forward.IsNamedAfter identifier ∧ rel.inverse.IsNamedAfter r.entityRole := by
  have hsnake := snakeCase_of_beginsWithCapital hname
  have hr := identifies_of_match hmatch
  cases hi : r.identifierRole with
  | none =>
    left
    exact ⟨referenceModeRelations_of_elsewhere hsnake hi, r, _, hmatch, hi, hsnake⟩
  | some identifier =>
    right
    have hidentifier := hnamed identifier (hr.identifierRole_spec hi).1
    have hentity := hnamed r.entityRole hr.entityRole_mem
    exact ⟨identifier, _, rfl, referenceModeRelations_of_named hsnake hi hidentifier hentity,
      ⟨rfl, rfl⟩, ⟨rfl, rfl⟩⟩

theorem factTypeClauses_of_misnamed (hmatch : m.matchReferenceMode f = .ok (some r))
    (h : ¬ BeginsWithCapital r.entity.name.toList) :
    (m.factTypeClauses f).result = .error (.naming (.notCapitalised r.entity.name)) := by
  rw [result_factTypeClauses, result_relationsAndClauses_of_mode hmatch,
    referenceModeRelations_of_misnamed h]
  rfl

theorem keepsExplicitNames_of_isNamedByRoles (h : m.IsNamedByRoles f) :
    m.KeepsExplicitNames f := by
  have hresult := result_relationsAndClauses_of_isNamedByRoles h
  refine ⟨?faultless, ?ofMode, ?ofRoles⟩
  case faultless =>
    intro fault hfault
    rw [result_factTypeClauses, hresult] at hfault
    cases hfault
  case ofMode =>
    intro r relations whole hmatch
    rw [h.1] at hmatch
    cases hmatch
  case ofRoles =>
    intro relations whole _ hrelations
    rw [hresult] at hrelations
    cases hrelations
    exact forall₂_namedRelations f.roles

theorem keepsExplicitNames_of_mode (hmatch : m.matchReferenceMode f = .ok (some r))
    (hnamed : ∀ role ∈ f.roles, role.name ≠ "") (hname : BeginsWithCapital r.entity.name.toList) :
    m.KeepsExplicitNames f := by
  have hresult := result_relationsAndClauses_of_mode hmatch
  have hcases := referenceModeRelations_cases hmatch hnamed hname
  refine ⟨?faultless, ?ofMode, ?ofRoles⟩
  case faultless =>
    intro fault hfault
    rw [result_factTypeClauses, hresult, map_eq_error_iff, map_eq_error_iff] at hfault
    rcases hcases with ⟨helsewhere, hf⟩ | ⟨-, rel, -, hrel, -⟩
    · rw [helsewhere] at hfault
      cases hfault
      exact ⟨rfl, hf⟩
    · rw [hrel] at hfault
      cases hfault
  case ofMode =>
    intro _ relations whole _ hrelations
    rcases hcases with ⟨helsewhere, -⟩ | ⟨identifier, rel, hi, hrel, hforward, hinverse⟩
    · rw [hresult, helsewhere] at hrelations
      cases hrelations
    · rw [hresult, hrel] at hrelations
      cases hrelations
      exact ⟨_, (identifies_of_match hmatch).roles_perm hi, .cons hforward (.cons hinverse .nil)⟩
  case ofRoles =>
    rintro relations whole ⟨hnone, -⟩
    rw [hmatch] at hnone
    cases hnone

/-- **Explicit names.** A fact type whose roles have names for its relations keeps these names, and
lacks no other, exactly if it is no reference mode or the name of its entity type begins with a
capital. The names of the fact type, of the identifier and of the reference mode do not matter. -/
theorem keepsExplicitNames_iff (h : m.HasExplicitNames f) :
    m.KeepsExplicitNames f ↔
      ∀ r, m.matchReferenceMode f = .ok (some r) → BeginsWithCapital r.entity.name.toList := by
  constructor
  · intro hkeeps r hmatch
    by_contra hname
    obtain ⟨hfault, -⟩ := hkeeps.faultless _ (factTypeClauses_of_misnamed hmatch hname)
    cases hfault
  · intro hcapital
    rcases h with ⟨r, hmatch, hnamed⟩ | hroles
    · exact keepsExplicitNames_of_mode hmatch hnamed (hcapital r hmatch)
    · exact keepsExplicitNames_of_isNamedByRoles hroles

end Model

/-! ## Collectors of stamps -/

namespace Stamps

/-- Those who collect stamps, by the given name. -/
def collector (name : String) : ObjectType :=
  { id := some "collector", name := name, kind := .entity, referenceMode := "nr",
    preferredIdentifier := some "one holder" }

/-- The role of the collector, who holds a card. -/
def holder : Role :=
  { id := some "holder", factTypeId := some "registered", playerId := some "collector",
    name := "holder" }

/-- The role of the number on the card. -/
def card : Role :=
  { id := some "card", factTypeId := some "registered", playerId := some "number", name := "card" }

/-- Every collector has a card, by which the collector is known. -/
def registered : FactType where
  id := some "registered"
  name := "collector has card"
  roles := [holder, card]
  uniquenessIds := [some "one card", some "one holder"]
  mandatoryIds := [some "all registered"]

/-- The model in which collectors have the given name. Other names are in small letters. -/
def model (name : String) : Model where
  objects := [collector name, { id := some "number", name := "card number", kind := .value }]
  factTypes := [registered]
  uniquenessConstraints := [{ id := some "one card", roleIds := [some "holder"] },
    { id := some "one holder", roleIds := [some "card"] }]
  mandatoryConstraints := [{ id := some "all registered", roleIds := [some "holder"] }]

/-- The cards of collectors. -/
def cards (name : String) : ReferenceMode where
  entity := collector name
  entityRole := holder
  identifierRole := some card
  entityUniqueness := some "one card"
  identifierUniqueness := some "one holder"

theorem match_registered (name : String) :
    (model name).matchReferenceMode registered = .ok (some (cards name)) := rfl

theorem hasExplicitNames (name : String) : (model name).HasExplicitNames registered :=
  Or.inl ⟨cards name, rfl, by decide⟩

/-- Both roles have names, and still there are no clauses, for want of a name of the entity type. -/
theorem misnamed_collector :
    (∀ role ∈ registered.roles, role.name ≠ "") ∧
      (model "collector").matchReferenceMode registered = .ok (some (cards "collector")) ∧
      ((model "collector").factTypeClauses registered).result =
        .error (.naming (.notCapitalised "collector")) :=
  ⟨by decide, rfl, rfl⟩

/-- With a capital for the entity type alone, the relations are `card` and `holder`. -/
theorem keepsExplicitNames_registered :
    (model "Collector").HasExplicitNames registered ∧
      (model "Collector").KeepsExplicitNames registered ∧
      ∃ relations whole,
        ((model "Collector").relationsAndClauses registered).result = .ok (relations, whole) ∧
          relations.map Predicate.name = ["card", "holder"] := by
  refine ⟨hasExplicitNames _, (Model.keepsExplicitNames_iff (hasExplicitNames _)).mpr ?_, _, _,
    rfl, by decide⟩
  intro r hmatch
  obtain rfl : cards "Collector" = r := by simpa [match_registered] using hmatch
  decide

end Stamps

end RoleSchema
