import RoleSchema.Proofs.Relation.ReferenceMode
import RoleSchema.Relation.Inference

/-!
# Where the relations of a fact type come from

A fact type that is no reference mode gives a relation for each role that has a name and a key, or
one relation of its own name. `Model.Gives` lists the four ways in which a relation comes of a fact
type, and with each way the uniqueness constraint whose roles are the key.

* `result_userNamedRelations`, `diagnostics_userNamedRelations`: named roles never fail, and their
  relations and findings are in the order of the roles.
* `systemNamedRelations_eq_ok`: a relation of the name of the fact type has the only uniqueness
  constraint as its key and all other roles as its value.
* `result_relationsFor`, `diagnostics_relationsFor`: the relations of a fact type and its findings.
* `finding_of_relationsFor`: what there is to be found.
-/

namespace RoleSchema

open RoleSchema.Rel (Predicate)

/-- The relation that a role asks for by its name, if it has a name and there is a key. -/
def Model.namedRelation? (m : Model) (f : FactType) (r : Role) : Option Predicate :=
  if r.name = "" then none
  else (m.uniquenessExcludingRole r.id f).map fun u => ⟨r.name, u.id, u.roleIds, [r.id]⟩

/-- The finding that a named role has no key, unless the fact type only says whether something
holds. -/
def Model.unkeyed? (m : Model) (f : FactType) (r : Role) : Option Diagnostic :=
  if r.name = "" ∨ (m.uniquenessExcludingRole r.id f).isSome ∨ f.roleIds.any m.isImplicitBoolean then
    none
  else some (.unkeyedNamedRole f r)

/-- The finding that there is no uniqueness constraint to be the key of a relation of the whole fact
type, or more than one. -/
def Model.undetermined? (m : Model) (f : FactType) : Option Diagnostic :=
  match m.uniquenessConstraintsOf f with
  | [] => some (.missingUniqueness f)
  | [_] => none
  | _ => some (.ambiguousFactType f)

/-- The ways in which a relation comes of a fact type. -/
inductive Model.Gives (m : Model) (f : FactType) : Predicate → Prop
  /-- From the entity type of a reference mode to its identifier. -/
  | forward {r : ReferenceMode} {identifier : Role} (name : String) (hr : m.Identifies f r)
      (hi : r.identifierRole = some identifier) :
      Gives m f ⟨name, r.entityUniqueness, [r.entityRole.id], [identifier.id]⟩
  /-- From the identifier of a reference mode to the entity type. -/
  | inverse {r : ReferenceMode} {identifier : Role} (name : String) (hr : m.Identifies f r)
      (hi : r.identifierRole = some identifier) :
      Gives m f ⟨name, r.identifierUniqueness, [identifier.id], [r.entityRole.id]⟩
  /-- A named role is the value; the key is the first uniqueness constraint that leaves it out. -/
  | named {r : Role} {u : UniquenessConstraint} (hr : r ∈ f.roles)
      (hu : m.uniquenessExcludingRole r.id f = some u) :
      Gives m f ⟨r.name, u.id, u.roleIds, [r.id]⟩
  /-- The only uniqueness constraint is the key, and all roles that it leaves out are the value. -/
  | whole {u : UniquenessConstraint} (name : String) (hu : m.uniquenessConstraintsOf f = [u]) :
      Gives m f ⟨name, u.id, u.roleIds, f.rolesExcludedBy u⟩

namespace Model

variable {m : Model} {f : FactType}

theorem result_namedRoleRelation (r : Role) :
    (m.namedRoleRelation f r).result =
      .ok ((m.uniquenessExcludingRole r.id f).map fun u =>
        (⟨r.name, u.id, u.roleIds, [r.id]⟩ : Predicate)).toList := by
  unfold namedRoleRelation
  cases m.uniquenessExcludingRole r.id f with
  | some u => rfl
  | none =>
    simp only [Option.map_none, Option.toList_none]
    split <;> rfl

theorem result_namedRole_or_none (r : Role) :
    (if r.name ≠ "" then m.namedRoleRelation f r else pure []).result =
      .ok (m.namedRelation? f r).toList := by
  by_cases hn : r.name = ""
  · simp [namedRelation?, hn]
  · rw [if_pos hn, result_namedRoleRelation]
    simp [namedRelation?, hn]

theorem result_userNamedRelations (roles : List Role) :
    (m.userNamedRelations f roles).result = .ok (roles.filterMap (m.namedRelation? f)) := by
  induction roles with
  | nil => rfl
  | cons r rest ih =>
    simp only [userNamedRelations, ite_bind]
    rw [Reporting.result_bind_of_ok (result_namedRole_or_none r), Reporting.result_bind_of_ok ih,
      List.filterMap_cons]
    cases m.namedRelation? f r <;> rfl

theorem diagnostics_namedRoleRelation (r : Role) :
    (if r.name ≠ "" then m.namedRoleRelation f r else pure []).diagnostics =
      (m.unkeyed? f r).toList := by
  by_cases hn : r.name = ""
  · simp [unkeyed?, hn, Reporting.diagnostics, diagnosticsOf]
  · rw [if_pos hn]
    unfold namedRoleRelation
    cases hu : m.uniquenessExcludingRole r.id f with
    | some u => simp [unkeyed?, hu, Reporting.diagnostics, diagnosticsOf]
    | none =>
      by_cases hb : f.roleIds.any m.isImplicitBoolean
      · simp [unkeyed?, hb, Reporting.diagnostics, diagnosticsOf]
      · simp only [unkeyed?, hn, hu, hb]
        rfl

/-- The findings about named roles are in the order of the roles. -/
theorem diagnostics_userNamedRelations (roles : List Role) :
    (m.userNamedRelations f roles).diagnostics = roles.filterMap (m.unkeyed? f) := by
  induction roles with
  | nil => rfl
  | cons r rest ih =>
    simp only [userNamedRelations, ite_bind]
    rw [Reporting.diagnostics_bind_of_ok (result_namedRole_or_none r),
      Reporting.diagnostics_bind_pure, diagnostics_namedRoleRelation, ih, List.filterMap_cons]
    cases m.unkeyed? f r <;> rfl

/-- A relation that bears the name of its fact type has the only uniqueness constraint as its
key. -/
theorem systemNamedRelations_eq_ok {relations : List Predicate}
    (h : (m.systemNamedRelations f).result = .ok relations) :
    relations = [] ∨ ∃ u name, m.uniquenessConstraintsOf f = [u] ∧ snakeCase f.name = .ok name ∧
      relations = [⟨name, u.id, u.roleIds, f.rolesExcludedBy u⟩] := by
  unfold systemNamedRelations at h
  split at h
  · cases h
    exact Or.inl rfl
  · next u hu =>
    obtain ⟨name, hn, h⟩ := Reporting.result_bind_eq_ok_iff.mp h
    rw [Reporting.result_ofExcept, mapError_eq_ok_iff] at hn
    cases h
    exact Or.inr ⟨u, name, hu, hn, rfl⟩
  · cases h
    exact Or.inl rfl

theorem diagnostics_systemNamedRelations :
    (m.systemNamedRelations f).diagnostics = (m.undetermined? f).toList := by
  unfold systemNamedRelations undetermined?
  rcases m.uniquenessConstraintsOf f with _ | ⟨u, _ | ⟨v, rest⟩⟩
  · rfl
  · cases snakeCase f.name <;> rfl
  · rfl

theorem diagnostics_relationsFor : (m.relationsFor f).diagnostics =
    if f.hasNamedRoles then f.roles.filterMap (m.unkeyed? f) else (m.undetermined? f).toList := by
  unfold relationsFor
  split
  · rw [Reporting.diagnostics_bind_of_ok rfl, diagnostics_userNamedRelations]
    rfl
  · rw [Reporting.diagnostics_bind_of_ok rfl, diagnostics_systemNamedRelations]
    rfl

/-- The relations of a fact type are found wanting for three reasons. -/
theorem finding_of_relationsFor {d : Diagnostic} (h : d ∈ (m.relationsFor f).diagnostics) :
    (∃ r, d = .unkeyedNamedRole f r) ∨ d = .missingUniqueness f ∨ d = .ambiguousFactType f := by
  rw [diagnostics_relationsFor] at h
  split at h
  · obtain ⟨r, -, hr⟩ := List.mem_filterMap.mp h
    unfold unkeyed? at hr
    split at hr
    · cases hr
    · cases hr
      exact Or.inl ⟨r, rfl⟩
  · have h := Option.mem_toList.mp h
    unfold undetermined? at h
    split at h <;> cases h
    · exact Or.inr (Or.inl rfl)
    · exact Or.inr (Or.inr rfl)

theorem result_relationsFor : (m.relationsFor f).result =
    if f.hasNamedRoles then .ok (f.roles.filterMap (m.namedRelation? f))
    else (m.systemNamedRelations f).result := by
  unfold relationsFor
  split
  · rw [Reporting.result_bind_of_ok rfl, result_userNamedRelations]
  · rw [Reporting.result_bind_of_ok rfl]

theorem gives_of_mem_relationsFor {relations : List Predicate} {p : Predicate}
    (h : (m.relationsFor f).result = .ok relations) (hp : p ∈ relations) : m.Gives f p := by
  rw [result_relationsFor] at h
  split at h
  · cases h
    obtain ⟨r, hr, h⟩ := List.mem_filterMap.mp hp
    unfold namedRelation? at h
    split at h
    · cases h
    · obtain ⟨u, hu, rfl⟩ := Option.map_eq_some_iff.mp h
      exact .named hr hu
  · rcases systemNamedRelations_eq_ok h with rfl | ⟨u, name, hu, -, rfl⟩
    · cases hp
    · obtain rfl := List.mem_singleton.mp hp
      exact .whole name hu

end Model

end RoleSchema
