import Mathlib.Data.List.Nodup
import Mathlib.Data.List.Pairwise
import RoleSchema.Naming

/-!
# What a look-up finds

An element that a look-up by id finds is an element of the model and bears the id. A constraint that
is found as a uniqueness constraint is also found among constraints of either kind, so that its lone
role is read off its own roles.
-/

namespace RoleSchema

theorem of_findLast?_eq_some {α : Type} {p : α → Bool} {xs : List α} {x : α}
    (h : findLast? p xs = some x) : x ∈ xs ∧ p x = true := by
  have hx := List.mem_of_find?_eq_some h
  exact ⟨List.mem_reverse.mp hx, List.find?_some h⟩

theorem FactType.mem_rolesExcludedBy {f : FactType} {u : UniquenessConstraint} {role : Id} :
    role ∈ f.rolesExcludedBy u ↔ role ∈ f.roleIds ∧ role ∉ u.roleIds := by
  simp [rolesExcludedBy, UniquenessConstraint.spans]

/-- Where no two roles share their id, fact types that share one are the same. -/
theorem FactType.eq_of_mem_roleIds {fs : List FactType} (h : (fs.flatMap FactType.roleIds).Nodup)
    {f g : FactType} (hf : f ∈ fs) (hg : g ∈ fs) {role : Id} (hrf : role ∈ f.roleIds)
    (hrg : role ∈ g.roleIds) : f = g := by
  by_contra hne
  have hdisjoint := (List.nodup_flatMap.mp h).2
  have : Std.Symm (Function.onFun List.Disjoint FactType.roleIds) :=
    ⟨fun _ _ hfg _ hg hf => hfg hf hg⟩
  exact hdisjoint.forall hf hg hne hrf hrg

namespace Model

variable {m : Model}

/-! ## By id -/

theorem objectById_eq_some {id : Id} {o : ObjectType} (h : m.objectById id = some o) :
    id.isGiven = true ∧ o ∈ m.objects ∧ o.id = id := by
  unfold objectById at h
  split at h
  · next hid =>
    obtain ⟨ho, hb⟩ := of_findLast?_eq_some h
    exact ⟨hid, ho, by simpa using hb⟩
  · cases h

theorem entityById_eq_some {id : Id} {e : ObjectType} (h : m.entityById id = some e) :
    m.objectById id = some e ∧ e.isEntity = true :=
  Option.filter_eq_some_iff.mp h

theorem id_of_entityById {id : Id} {e : ObjectType} (h : m.entityById id = some e) : e.id = id :=
  (objectById_eq_some (entityById_eq_some h).1).2.2

theorem factTypeById_eq_some {id : Id} {f : FactType} (h : m.factTypeById id = some f) :
    id.isGiven = true ∧ f ∈ m.factTypes ∧ f.id = id := by
  unfold factTypeById at h
  split at h
  · next hid =>
    obtain ⟨hf, hb⟩ := of_findLast?_eq_some h
    exact ⟨hid, hf, by simpa using hb⟩
  · cases h

theorem uniquenessById_eq_some {id : Id} {u : UniquenessConstraint}
    (h : m.uniquenessById id = some u) :
    id.isGiven = true ∧ u ∈ m.uniquenessConstraints ∧ u.id = id := by
  unfold uniquenessById at h
  split at h
  · next hid =>
    obtain ⟨hu, hb⟩ := of_findLast?_eq_some h
    exact ⟨hid, hu, by simpa using hb⟩
  · cases h

theorem constraintById_of_uniquenessById {id : Id} {u : UniquenessConstraint}
    (h : m.uniquenessById id = some u) : m.constraintById id = some (.uniqueness u) := by
  have hid := (uniquenessById_eq_some h).1
  simp only [uniquenessById, hid, if_true] at h
  simp only [constraintById, h]

theorem mandatoryById_eq_some {id : Id} {c : MandatoryConstraint}
    (h : m.mandatoryById id = some c) : c ∈ m.mandatoryConstraints ∧ c.id = id := by
  unfold mandatoryById at h
  split at h
  · obtain ⟨hc, hb⟩ := of_findLast?_eq_some h
    exact ⟨hc, by simpa using hb⟩
  · cases h

/-! ## Constraints of a fact type -/

theorem mem_uniquenessConstraintsOf {f : FactType} {u : UniquenessConstraint} :
    u ∈ m.uniquenessConstraintsOf f ↔ ∃ id ∈ f.uniquenessIds, m.uniquenessById id = some u :=
  List.mem_filterMap

theorem uniquenessById_of_mem {f : FactType} {u : UniquenessConstraint}
    (h : u ∈ m.uniquenessConstraintsOf f) :
    u.id ∈ f.uniquenessIds ∧ m.uniquenessById u.id = some u := by
  obtain ⟨id, hid, hu⟩ := mem_uniquenessConstraintsOf.mp h
  obtain rfl := (uniquenessById_eq_some hu).2.2
  exact ⟨hid, hu⟩

theorem uniquenessExcludingRole_eq_some {f : FactType} {role : Id} {u : UniquenessConstraint}
    (h : m.uniquenessExcludingRole role f = some u) :
    u ∈ m.uniquenessConstraintsOf f ∧ role ∉ u.roleIds :=
  ⟨List.mem_of_find?_eq_some h, by simpa [UniquenessConstraint.spans] using List.find?_some h⟩

theorem uniquenessExcludingRole_eq_none_iff {f : FactType} {role : Id} :
    m.uniquenessExcludingRole role f = none ↔
      ∀ u ∈ m.uniquenessConstraintsOf f, role ∈ u.roleIds := by
  simp [uniquenessExcludingRole, UniquenessConstraint.spans]

theorem loneRoleOf_of_roleIds {id : Id} {c : Constraint} {role : Id}
    (h : m.constraintById id = some c) (hc : c.roleIds = [role]) : m.loneRoleOf id = role := by
  simp only [loneRoleOf, h, Option.map_some, hc]

/-- A constraint without a lone role spans no role, or several. -/
theorem roleIds_of_loneRoleOf {id : Id} {c : Constraint} {role : Id}
    (h : m.constraintById id = some c) (hr : m.loneRoleOf id = role) :
    c.roleIds = [role] ∨ role = none ∧ c.roleIds.length ≠ 1 := by
  by_cases hl : c.roleIds.length = 1
  · obtain ⟨r, hc⟩ := List.length_eq_one_iff.mp hl
    have := loneRoleOf_of_roleIds h hc
    left
    rw [hc, ← hr, this]
  · right
    refine ⟨?_, hl⟩
    rw [← hr]
    unfold loneRoleOf
    split
    · next r hc =>
      simp only [h, Option.map_some, Option.some.injEq] at hc
      exact absurd (by rw [hc]; rfl) hl
    · rfl

/-! ## Players and types of roles -/

theorem entityThatPlays_eq_some {role : Id} {e : ObjectType} (h : m.entityThatPlays role = some e) :
    m.rolePlayer role = some e ∧ e.isEntity = true :=
  Option.filter_eq_some_iff.mp h

/-- The entity type that plays a role is determined by its id. -/
theorem entityThatPlays_of_id {role id : Id} {entity : ObjectType}
    (h : (m.entityThatPlays role).map ObjectType.id = some entity.id)
    (hentity : m.entityById id = some entity) : m.entityThatPlays role = some entity := by
  obtain ⟨o, ho, hid⟩ := Option.map_eq_some_iff.mp h
  have hfound := (entityById_eq_some hentity).1
  obtain ⟨hplays, -⟩ := entityThatPlays_eq_some ho
  obtain ⟨-, -, hplayer⟩ := objectById_eq_some hplays
  have hsame : m.playerId role = id := by
    rw [← hplayer, hid, id_of_entityById hentity]
  unfold rolePlayer at hplays
  rw [hsame, hfound] at hplays
  rw [ho, hplays]

theorem roleType_of_entityThatPlays {role : Id} {e : ObjectType}
    (h : m.entityThatPlays role = some e) : m.roleType role = e.name := by
  simp only [roleType, h]

end Model

end RoleSchema
