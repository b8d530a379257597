import RoleSchema.Proofs.Relation.Clauses

/-!
# Faults in the structure of a model

A fact type cannot be translated at all in two cases. A reference mode needs two different uniqueness
constraints, and a fact type may list one constraint twice (`Model.RepeatsIdentifier`); and the
constraint that identifies an entity type may span a role of another fact type, so that there is no
role of the identifier (`Model.IdentifiesElsewhere`). All other faults are in names.

* `matchReferenceMode_eq_error_iff`: a search for a reference mode fails in the first case only.
* `factTypeClauses_eq_error`: the faults of a fact type.
-/

namespace RoleSchema

open RoleSchema.Rel (Predicate Clause)

/-- Faults that leave a fact type with an empty section and a diagnostic; any other ends the run. -/
def SchemaFault.IsReported : SchemaFault → Prop
  | .naming _ | .emission _ => True
  | _ => False

namespace Model

/-- A fact type lists the constraint that identifies the player of one of its roles twice, and no
other. -/
def RepeatsIdentifier (m : Model) (f : FactType) : Prop :=
  f.roles.length = 2 ∧ ∃ u entity identifier, f.uniquenessIds = [u, u] ∧
    m.entityIdentifiedBy u = some entity ∧ m.loneRoleOf u = some identifier ∧
    ∃ role ∈ f.roles, role.id ≠ some identifier ∧
      (m.entityThatPlays role.id).map ObjectType.id = some entity.id

/-- A fact type is a reference mode but for the role of the identifier, which is no role of it. -/
def IdentifiesElsewhere (m : Model) (f : FactType) : Prop :=
  ∃ r name, m.matchReferenceMode f = .ok (some r) ∧ r.identifierRole = none ∧
    snakeCase r.entity.name = .ok name

variable {m : Model} {f : FactType} {fault : SchemaFault}

/-! ## Reference modes -/

/-- With one uniqueness constraint alone at hand, the test of a role fails where it needs
another. -/
theorem matchEntityRole_of_repeated {u identifier : Id} {entity : ObjectType} {role : Role}
    (h : ∀ v ∈ f.uniquenessIds, v = u) :
    m.matchEntityRole f u entity identifier role =
      if role.id ≠ identifier ∧ (m.entityThatPlays role.id).map ObjectType.id = some entity.id then
        .error .repeatedUniqueness
      else .ok none := by
  have hother : f.uniquenessIds.find? (fun v => v != u) = none := by simpa using h
  unfold matchEntityRole
  by_cases hr : role.id = identifier
  · simp [hr]
  cases hp : m.entityThatPlays role.id with
  | none => simp [hr]
  | some o =>
    by_cases ho : o.id = entity.id
    · simp [hr, ho, hother, Option.filter]
    · simp [hr, ho, Option.filter]

theorem matchEntityRole_eq_error {u identifier : Id} {entity : ObjectType} {role : Role}
    (h : m.matchEntityRole f u entity identifier role = .error fault) :
    fault = .repeatedUniqueness ∧ role.id ≠ identifier ∧
      (m.entityThatPlays role.id).map ObjectType.id = some entity.id ∧
      ∀ v ∈ f.uniquenessIds, v = u := by
  cases hw : f.uniquenessIds.find? fun v => v != u with
  | some w =>
    rw [matchEntityRole_of_other hw] at h
    cases h
  | none =>
    have hall : ∀ v ∈ f.uniquenessIds, v = u := by simpa using hw
    rw [matchEntityRole_of_repeated hall] at h
    split at h
    · next hc =>
      cases h
      exact ⟨rfl, hc.1, hc.2, hall⟩
    · cases h

/-- A search for a reference mode fails exactly if one identifying constraint is listed twice. -/
theorem matchReferenceMode_eq_error_iff :
    m.matchReferenceMode f = .error fault ↔
      fault = .repeatedUniqueness ∧ m.RepeatsIdentifier f := by
  constructor
  · intro h
    unfold matchReferenceMode at h
    split at h
    · next hf =>
      obtain ⟨u, hu, h⟩ := exists_of_findSomeM?_eq_error h
      unfold matchIdentifier at h
      split at h
      · next entity identifier he hi =>
        obtain ⟨role, hr, h⟩ := exists_of_findSomeM?_eq_error h
        obtain ⟨rfl, hne, hp, hall⟩ := matchEntityRole_eq_error h
        have htwice : f.uniquenessIds = [u, u] :=
          List.eq_replicate_iff.mpr ⟨hf.2, hall⟩
        exact ⟨rfl, hf.1, u, entity, identifier, htwice, he, hi, role, hr, hne, hp⟩
      · cases h
    · cases h
  · rintro ⟨rfl, hroles, u, entity, identifier, htwice, he, hi, role, hr, hne, hp⟩
    have hall : ∀ v ∈ f.uniquenessIds, v = u := by simp [htwice]
    have hfail (r : Role) : m.matchEntityRole f u entity (some identifier) r = .ok none ∨
        m.matchEntityRole f u entity (some identifier) r = .error .repeatedUniqueness := by
      rw [matchEntityRole_of_repeated hall]
      split
      · exact Or.inr rfl
      · exact Or.inl rfl
    have hrole : m.matchEntityRole f u entity (some identifier) role =
        .error .repeatedUniqueness := by
      rw [matchEntityRole_of_repeated hall, if_pos ⟨hne, hp⟩]
    have hu : m.matchIdentifier f u = .error .repeatedUniqueness := by
      simp only [matchIdentifier, he, hi]
      exact findSomeM?_eq (fun r _ => hfail r) ⟨role, hr, hrole⟩
    simp only [matchReferenceMode, hroles, htwice, List.length_cons, List.length_nil, and_self,
      if_true]
    exact findSomeM?_eq (by simp [hu]) ⟨u, by simp, hu⟩

/-- A generated name fails as a name only. -/
theorem isReported_of_label {name : String} {label : Except NamingFault String}
    {build : String → String}
    (h : (if name ≠ "" then .ok name else (label.mapError SchemaFault.naming).map build) =
      .error fault) : fault.IsReported := by
  split at h
  · cases h
  · obtain ⟨n, -, rfl⟩ := mapError_eq_error_iff.mp (map_eq_error_iff.mp h)
    trivial

theorem referenceModeRelations_of_elsewhere {r : ReferenceMode} {name : String}
    (hname : snakeCase r.entity.name = .ok name) (hi : r.identifierRole = none) :
    m.referenceModeRelations r = .error .identifierElsewhere := by
  unfold referenceModeRelations
  rw [hname, hi]
  rfl

/-- The relations of a reference mode lack a name, or there is no role of the identifier. -/
theorem referenceModeRelations_eq_error {r : ReferenceMode}
    (h : m.referenceModeRelations r = .error fault) :
    fault.IsReported ∨ fault = .identifierElsewhere ∧ r.identifierRole = none ∧
      ∃ name, snakeCase r.entity.name = .ok name := by
  rcases bind_eq_error_iff.mp h with h | ⟨name, hname, h⟩
  · obtain ⟨n, -, rfl⟩ := mapError_eq_error_iff.mp h
    exact Or.inl trivial
  · rw [mapError_eq_ok_iff] at hname
    split at h
    · next hi =>
      cases h
      exact Or.inr ⟨rfl, hi, name, hname⟩
    · simp only [ite_bind] at h
      rcases bind_eq_error_iff.mp h with h | ⟨forward, -, h⟩
      · exact Or.inl (isReported_of_label h)
      · rcases bind_eq_error_iff.mp h with h | ⟨inverse, -, h⟩
        · exact Or.inl (isReported_of_label h)
        · cases h

theorem relationsFor_eq_error (h : (m.relationsFor f).result = .error fault) :
    fault.IsReported := by
  unfold relationsFor at h
  split at h
  · rw [Reporting.result_bind_of_ok rfl, result_userNamedRelations] at h
    cases h
  · rw [Reporting.result_bind_of_ok rfl] at h
    unfold systemNamedRelations at h
    split at h
    · cases h
    · rcases Reporting.result_bind_eq_error_iff.mp h with h | ⟨name, -, h⟩
      · obtain ⟨n, -, rfl⟩ := mapError_eq_error_iff.mp h
        trivial
      · cases h
    · cases h

/-! ## Clauses -/

/-- A fact type cannot be translated because of a name, because it lists an identifying constraint
twice, or because its identifier is elsewhere. -/
theorem factTypeClauses_eq_error (h : (m.factTypeClauses f).result = .error fault) :
    fault.IsReported ∨ fault = .repeatedUniqueness ∧ m.RepeatsIdentifier f ∨
      fault = .identifierElsewhere ∧ m.IdentifiesElsewhere f := by
  rcases Reporting.result_bind_eq_error_iff.mp h with h | ⟨⟨relations, whole⟩, -, h⟩
  · rcases Reporting.result_bind_eq_error_iff.mp h with h | ⟨o, ho, h⟩
    · exact Or.inr (Or.inl (matchReferenceMode_eq_error_iff.mp h))
    · cases o with
      | some r =>
        rw [Reporting.result_bind_of_ok rfl] at h
        rcases Reporting.result_bind_eq_error_iff.mp h with h | ⟨rel, -, h⟩
        · rcases referenceModeRelations_eq_error h with h | ⟨rfl, hi, name, hname⟩
          · exact Or.inl h
          · exact Or.inr (Or.inr ⟨rfl, r, name, ho, hi, hname⟩)
        · cases h
      | none =>
        rcases Reporting.result_bind_eq_error_iff.mp h with h | ⟨relations, -, h⟩
        · exact Or.inl (relationsFor_eq_error h)
        · rw [mapM_of_ok fun p _ => relationClauses_eq p] at h
          cases h
  · rw [Reporting.result_bind_of_ok (result_columnClauses relations)] at h
    cases h

theorem factTypeClauses_of_repeatsIdentifier (h : m.RepeatsIdentifier f) :
    (m.factTypeClauses f).result = .error .repeatedUniqueness := by
  have hmatch := matchReferenceMode_eq_error_iff.mpr ⟨rfl, h⟩
  refine Reporting.result_bind_eq_error_iff.mpr (Or.inl ?_)
  exact Reporting.result_bind_eq_error_iff.mpr (Or.inl hmatch)

theorem factTypeClauses_of_identifiesElsewhere (h : m.IdentifiesElsewhere f) :
    (m.factTypeClauses f).result = .error .identifierElsewhere := by
  obtain ⟨r, name, hmatch, hi, hname⟩ := h
  rw [result_factTypeClauses, result_relationsAndClauses_of_mode hmatch,
    referenceModeRelations_of_elsewhere hname hi]
  rfl

end Model

end RoleSchema
