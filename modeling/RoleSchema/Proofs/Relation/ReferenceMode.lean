import RoleSchema.Proofs.Model.Lookup
import RoleSchema.Proofs.Result
import RoleSchema.Relation.ReferenceMode
import Mathlib.Data.List.Perm.Subperm

/-!
# What a reference mode is

`Model.Identifies m f r` collects what makes a fact type the reference mode `r`; a fact type that is
recognised has all of it (`identifies_of_match`). The two relations that come of a reference mode
have the role of the entity type and the role of the identifier as their only columns, in either
order (`relations_of_referenceMode`).
-/

namespace RoleSchema

open RoleSchema.Rel (Predicate)

theorem perm_pair_of_mem {α : Type} {xs : List α} {a b : α} (h : xs.length = 2) (ha : a ∈ xs)
    (hb : b ∈ xs) (hab : a ≠ b) : xs.Perm [a, b] := by
  have hsub : [a, b].Subperm xs := List.Nodup.subperm (by simpa using hab) (by simp [ha, hb])
  exact (hsub.perm_of_length_le (by simp [h])).symm

theorem eq_or_eq_of_length_two {α : Type} {xs : List α} {a b c : α} (h : xs.length = 2)
    (ha : a ∈ xs) (hb : b ∈ xs) (hab : a ≠ b) (hc : c ∈ xs) : c = a ∨ c = b :=
  List.mem_pair.mp ((perm_pair_of_mem h ha hb hab).mem_iff.mp hc)

/-- A list without repetitions of at most two values has both if it has one and not that alone. -/
theorem mem_of_length_ne_one {α : Type} {xs : List α} {a b : α} (hn : xs.Nodup)
    (hs : ∀ x ∈ xs, x = a ∨ x = b) (hl : xs.length ≠ 1) (hb : b ∈ xs) : a ∈ xs := by
  by_contra ha
  have hsub : xs ⊆ [b] := by
    intro x hx
    rcases hs x hx with rfl | rfl
    · exact absurd hx ha
    · simp
  have hle : xs.length ≤ 1 := (List.Nodup.subperm hn hsub).length_le
  have hpos := List.length_pos_of_mem hb
  omega

/-- The roles and constraints of `r` make the fact type the reference mode of its entity type. -/
structure Model.Identifies (m : Model) (f : FactType) (r : ReferenceMode) : Prop where
  twoRoles : f.roles.length = 2
  twoConstraints : f.uniquenessIds.length = 2
  identifier_mem : r.identifierUniqueness ∈ f.uniquenessIds
  identified : m.entityIdentifiedBy r.identifierUniqueness = some r.entity
  lone_ne_none : m.loneRoleOf r.identifierUniqueness ≠ none
  identifierRole : r.identifierRole = f.role? (m.loneRoleOf r.identifierUniqueness)
  entityRole_mem : r.entityRole ∈ f.roles
  entityRole_ne : r.entityRole.id ≠ m.loneRoleOf r.identifierUniqueness
  player : (m.entityThatPlays r.entityRole.id).map ObjectType.id = some r.entity.id
  other : f.uniquenessIds.find? (fun u => u != r.identifierUniqueness) = some r.entityUniqueness
  spans : m.loneRoleOf r.entityUniqueness = r.entityRole.id
  mandatory : ∃ c ∈ f.mandatoryIds, m.loneRoleOf c = r.entityRole.id

namespace Model

variable {m : Model} {f : FactType} {r : ReferenceMode}

/-- With another uniqueness constraint `w` at hand, the test of a role does not fail, and says
whether the role is that of the entity type. -/
theorem matchEntityRole_of_other {u w identifier : Id} {entity : ObjectType} {role : Role}
    (hw : f.uniquenessIds.find? (fun v => v != u) = some w) :
    m.matchEntityRole f u entity identifier role =
      .ok (if role.id ≠ identifier ∧
          (m.entityThatPlays role.id).map ObjectType.id = some entity.id ∧
          m.loneRoleOf w = role.id ∧ ∃ c ∈ f.mandatoryIds, m.loneRoleOf c = role.id then
        some ⟨entity, role, f.role? identifier, w, u⟩ else none) := by
  unfold matchEntityRole
  by_cases hr : role.id = identifier
  · simp [hr]
  rw [if_neg (by simpa using hr)]
  cases hp : m.entityThatPlays role.id with
  | none => simp
  | some o =>
    by_cases ho : o.id = entity.id
    · have hf : (some o).filter (fun p => p.id == entity.id) = some o := by simp [Option.filter, ho]
      simp only [hf, hw]
      by_cases hc : m.loneRoleOf w = role.id ∧ ∃ c ∈ f.mandatoryIds, m.loneRoleOf c = role.id
      · simp [hc, hr, ho]
      · simp [hc, hr, ho]
    · have hf : (some o).filter (fun p => p.id == entity.id) = none := by simp [Option.filter, ho]
      simp [hf, ho]

theorem matchEntityRole_eq_ok_some {u identifier : Id} {entity : ObjectType} {role : Role}
    (h : m.matchEntityRole f u entity identifier role = .ok (some r)) :
    role.id ≠ identifier ∧ (m.entityThatPlays role.id).map ObjectType.id = some entity.id ∧
      ∃ w, f.uniquenessIds.find? (fun v => v != u) = some w ∧ m.loneRoleOf w = role.id ∧
        (∃ c ∈ f.mandatoryIds, m.loneRoleOf c = role.id) ∧
        r = ⟨entity, role, f.role? identifier, w, u⟩ := by
  cases hw : f.uniquenessIds.find? (fun v => v != u) with
  | none =>
    unfold matchEntityRole at h
    rw [hw] at h
    split at h
    · cases h
    · split at h <;> cases h
  | some w =>
    rw [matchEntityRole_of_other hw] at h
    split at h
    · next hc =>
      obtain ⟨hr, hp, hs, hm⟩ := hc
      cases h
      exact ⟨hr, hp, w, rfl, hs, hm, rfl⟩
    · cases h

theorem matchIdentifier_eq_ok_some {u : Id} (h : m.matchIdentifier f u = .ok (some r)) :
    ∃ entity identifier, m.entityIdentifiedBy u = some entity ∧
      m.loneRoleOf u = some identifier ∧
      ∃ role ∈ f.roles, m.matchEntityRole f u entity (some identifier) role = .ok (some r) := by
  unfold matchIdentifier at h
  split at h
  · next entity identifier he hi =>
    exact ⟨entity, identifier, he, hi, exists_of_findSomeM?_eq_ok h⟩
  · cases h

/-- A fact type that is recognised is a reference mode. -/
theorem identifies_of_match (h : m.matchReferenceMode f = .ok (some r)) : m.Identifies f r := by
  unfold matchReferenceMode at h
  split at h
  · next hf =>
    obtain ⟨u, hu, h⟩ := exists_of_findSomeM?_eq_ok h
    obtain ⟨entity, identifier, he, hi, role, hr, h⟩ := matchIdentifier_eq_ok_some h
    obtain ⟨hne, hp, w, hw, hs, hc, rfl⟩ := matchEntityRole_eq_ok_some h
    exact
      { twoRoles := hf.1
        twoConstraints := hf.2
        identifier_mem := hu
        identified := he
        lone_ne_none := by simp [hi]
        identifierRole := by simp [hi]
        entityRole_mem := hr
        entityRole_ne := by simpa [hi] using hne
        player := hp
        other := hw
        spans := hs
        mandatory := hc }
  · cases h

/-- The relations of a reference mode lead from the role of the entity type to the role of the
identifier and back. -/
theorem relations_of_referenceMode {rel : ReferenceModeRelations}
    (h : m.referenceModeRelations r = .ok rel) :
    ∃ identifier forward inverse, r.identifierRole = some identifier ∧
      rel.forward = ⟨forward, r.entityUniqueness, [r.entityRole.id], [identifier.id]⟩ ∧
      rel.inverse = ⟨inverse, r.identifierUniqueness, [identifier.id], [r.entityRole.id]⟩ := by
  obtain ⟨name, -, h⟩ := bind_eq_ok_iff.mp h
  split at h
  · cases h
  · next identifier hi =>
    simp only [ite_bind] at h
    obtain ⟨forward, -, h⟩ := bind_eq_ok_iff.mp h
    obtain ⟨inverse, -, h⟩ := bind_eq_ok_iff.mp h
    cases h
    exact ⟨identifier, forward, inverse, hi, rfl, rfl⟩

end Model

namespace Model.Identifies

variable {m : Model} {f : FactType} {r : ReferenceMode}

theorem entityUniqueness_mem (h : m.Identifies f r) : r.entityUniqueness ∈ f.uniquenessIds :=
  List.mem_of_find?_eq_some h.other

theorem entityUniqueness_ne (h : m.Identifies f r) :
    r.entityUniqueness ≠ r.identifierUniqueness := by
  simpa using List.find?_some h.other

theorem identifierRole_spec {identifier : Role} (h : m.Identifies f r)
    (hi : r.identifierRole = some identifier) :
    identifier ∈ f.roles ∧ identifier.id = m.loneRoleOf r.identifierUniqueness := by
  rw [h.identifierRole] at hi
  exact ⟨List.mem_of_find?_eq_some hi, by simpa using List.find?_some hi⟩

/-- The identifying constraint spans the role of the identifier alone. -/
theorem roleIds_identifier {u : UniquenessConstraint} (h : m.Identifies f r)
    (hu : m.uniquenessById r.identifierUniqueness = some u) :
    u.roleIds = [m.loneRoleOf r.identifierUniqueness] := by
  have hc := constraintById_of_uniquenessById hu
  rcases roleIds_of_loneRoleOf hc rfl with h' | ⟨h', -⟩
  · exact h'
  · exact absurd h' h.lone_ne_none

/-- The other constraint spans the role of the entity type alone, where that role has an id. -/
theorem roleIds_entity {w : UniquenessConstraint} (h : m.Identifies f r)
    (hw : m.uniquenessById r.entityUniqueness = some w) :
    w.roleIds = [r.entityRole.id] ∨ r.entityRole.id = none ∧ w.roleIds.length ≠ 1 :=
  roleIds_of_loneRoleOf (constraintById_of_uniquenessById hw) h.spans

end Model.Identifies

end RoleSchema
