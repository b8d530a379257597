import RoleSchema.Proofs.Relation.Faults
import Mathlib.Data.List.Nodup
import Mathlib.Data.List.Permutation

/-!
# Which fact types are reference modes

Whether a fact type is a reference mode is said here without a search: its two roles and its two
uniqueness constraints can be given labels that fit (`Model.Labels`). The search finds such labels
wherever there are any. Two labellings fit where both constraints identify an entity type, and then
the constraint that the fact type lists first decides.

* `labels_of_match`, `Labels.matchIdentifier_eq`: what is found fits, and what fits is found.
* `Labels.unique`: the constraint of the identifier determines all other labels.
* `first_labelling_recognised`: the search for a reference mode is sound and complete.
-/

namespace RoleSchema

/-- Every role of the fact type has an id, and no two have the same. -/
structure FactType.RolesIdentified (f : FactType) : Prop where
  given : none ∉ f.roleIds
  nodup : f.roleIds.Nodup

/-- The ids of all constraints, uniqueness and mandatory ones together. -/
def Model.constraintIds (m : Model) : List Id :=
  m.uniquenessConstraints.map UniquenessConstraint.id ++
    m.mandatoryConstraints.map MandatoryConstraint.id

/-- The constraints that a fact type lists are found, and span no roles but its own. -/
structure Model.ConstraintsWithin (m : Model) (f : FactType) : Prop where
  uniqueness : ∀ id ∈ f.uniquenessIds, ∃ u, m.uniquenessById id = some u ∧ u.roleIds ⊆ f.roleIds
  mandatory : ∀ id ∈ f.mandatoryIds, ∃ c, m.mandatoryById id = some c ∧ c.roleIds ⊆ f.roleIds

/-- Labels for an entity type and for the parts of a fact type that identifies it: the role `e` of
the entity type and the constraint `w` over it, the role `i` of the identifier and the constraint
`u` over it. -/
structure Labelling where
  entity : ObjectType
  e : Role
  i : Role
  u : UniquenessConstraint
  w : UniquenessConstraint

/-- The reference mode that has the labelled parts. -/
def Labelling.mode (l : Labelling) : ReferenceMode := ⟨l.entity, l.e, some l.i, l.w.id, l.u.id⟩

/-- The labels fit a fact type. -/
structure Model.Labels (m : Model) (f : FactType) (l : Labelling) : Prop where
  roles : f.roles.Perm [l.e, l.i]
  constraints : (m.uniquenessConstraintsOf f).Perm [l.u, l.w]
  identifier_spans : l.u.roleIds = [l.i.id]
  other_spans : l.w.roleIds = [l.e.id]
  identified : m.entityIdentifiedBy l.u.id = some l.entity
  plays : m.entityThatPlays l.e.id = some l.entity
  mandatory : ∃ c ∈ m.mandatoryConstraintsOf f, c.roleIds = [l.e.id]

/-- The search for a reference mode goes by the labels that fit. -/
structure Model.Recognises (m : Model) (f : FactType) : Prop where
  returns : ∃ o, m.matchReferenceMode f = .ok o
  /-- It finds a reference mode exactly if some labels fit. -/
  found : (∃ r, m.matchReferenceMode f = .ok (some r)) ↔ ∃ l, m.Labels f l
  /-- What it finds has labels that fit, with the first constraint for which there are any, and
  these are the only ones with that constraint. -/
  first : ∀ r, m.matchReferenceMode f = .ok (some r) → ∃ l, m.Labels f l ∧ r = l.mode ∧
    (∀ l', m.Labels f l' → f.uniquenessIds.idxOf l.u.id ≤ f.uniquenessIds.idxOf l'.u.id) ∧
    ∀ l', m.Labels f l' → l'.u = l.u → l' = l

namespace Model

variable {m : Model} {f : FactType} {l : Labelling}

/-! ## Look-ups of constraints -/

/-- Where no id is that of two constraints, a mandatory constraint is found among the constraints of
either kind. -/
theorem constraintById_of_mandatoryById (hids : m.constraintIds.Nodup) {id : Id}
    {c : MandatoryConstraint} (h : m.mandatoryById id = some c) :
    m.constraintById id = some (.mandatory c) := by
  obtain ⟨hc, hid⟩ := mandatoryById_eq_some h
  have hnone : findLast? (fun u => u.id == id) m.uniquenessConstraints = none := by
    refine List.find?_eq_none.mpr fun u hu hb => ?_
    have huid : u.id = id := by simpa using hb
    have hmem : u.id ∈ m.uniquenessConstraints.map UniquenessConstraint.id :=
      List.mem_map_of_mem (List.mem_reverse.mp hu)
    have hmem' : u.id ∈ m.mandatoryConstraints.map MandatoryConstraint.id := by
      rw [huid, ← hid]
      exact List.mem_map_of_mem hc
    exact (List.nodup_append.mp hids).2.2 _ hmem _ hmem' rfl
  unfold mandatoryById at h
  split at h
  · unfold constraintById
    rw [hnone]
    simp only [h, Option.map_some]
  · cases h

/-- Where all of them are found, the uniqueness constraints of a fact type are those that it lists,
in order. -/
theorem ConstraintsWithin.map_id (hf : m.ConstraintsWithin f) :
    (m.uniquenessConstraintsOf f).map UniquenessConstraint.id = f.uniquenessIds := by
  have hfound := hf.uniqueness
  unfold uniquenessConstraintsOf
  generalize f.uniquenessIds = ids at hfound ⊢
  induction ids with
  | nil => rfl
  | cons id rest ih =>
    obtain ⟨u, hu, -⟩ := hfound id (List.mem_cons_self ..)
    have hrest := ih fun id' hid' => hfound id' (List.mem_cons_of_mem _ hid')
    rw [List.filterMap_cons, hu]
    simp only [List.map_cons, (uniquenessById_eq_some hu).2.2, hrest]

/-! ## What is found fits -/

/-- No role of the fact type is without an id. -/
theorem id_ne_none (hroles : f.RolesIdentified) {r : Role} (hr : r ∈ f.roles) : r.id ≠ none := by
  intro hnone
  have hid : r.id ∈ f.roleIds := List.mem_map_of_mem hr
  rw [hnone] at hid
  exact hroles.given hid

/-- A constraint whose lone role is a role of the fact type spans that role and no other. -/
theorem roleIds_eq_singleton {id : Id} {c : Constraint} {r : Role} (hroles : f.RolesIdentified)
    (hr : r ∈ f.roles) (hc : m.constraintById id = some c) (hlone : m.loneRoleOf id = r.id) :
    c.roleIds = [r.id] := by
  rcases roleIds_of_loneRoleOf hc hlone with hspans | ⟨hnone, -⟩
  · exact hspans
  · exact absurd hnone (id_ne_none hroles hr)

/-- The role that a listed constraint spans alone is a role of the fact type. -/
theorem exists_identifierRole {r : ReferenceMode} (h : m.Identifies f r)
    (hf : m.ConstraintsWithin f) : ∃ i, r.identifierRole = some i ∧ i ∈ f.roles ∧
      i.id = m.loneRoleOf r.identifierUniqueness := by
  obtain ⟨u, hu, hspans⟩ := hf.uniqueness _ h.identifier_mem
  have hlone : m.loneRoleOf r.identifierUniqueness ∈ f.roleIds := by
    refine hspans ?_
    rw [h.roleIds_identifier hu]
    exact List.mem_singleton_self _
  obtain ⟨i, hi, hid⟩ := List.mem_map.mp hlone
  have hfound : (f.role? (m.loneRoleOf r.identifierUniqueness)).isSome := by
    rw [FactType.role?, List.find?_isSome]
    exact ⟨i, hi, by simp [hid]⟩
  rw [← h.identifierRole] at hfound
  obtain ⟨identifier, hidentifier⟩ := Option.isSome_iff_exists.mp hfound
  exact ⟨identifier, hidentifier, h.identifierRole_spec hidentifier⟩

/-- **What is found fits.** The parts of a reference mode can be labelled. -/
theorem labels_of_match {r : ReferenceMode} (hids : m.constraintIds.Nodup)
    (hroles : f.RolesIdentified) (hf : m.ConstraintsWithin f)
    (h : m.matchReferenceMode f = .ok (some r)) : ∃ l, m.Labels f l ∧ r = l.mode := by
  have hi := identifies_of_match h
  obtain ⟨u, hu, -⟩ := hf.uniqueness _ hi.identifier_mem
  obtain ⟨w, hw, -⟩ := hf.uniqueness _ hi.entityUniqueness_mem
  obtain ⟨i, hrole, hmem, hlone⟩ := exists_identifierRole hi hf
  obtain ⟨cid, hc, hclone⟩ := hi.mandatory
  obtain ⟨c, hcfound, -⟩ := hf.mandatory cid hc
  have huid : u.id = r.identifierUniqueness := (uniquenessById_eq_some hu).2.2
  have hwid : w.id = r.entityUniqueness := (uniquenessById_eq_some hw).2.2
  have hne : r.entityRole ≠ i := by
    intro he
    exact hi.entityRole_ne (by rw [he, hlone])
  have huw : u ≠ w := by
    intro he
    exact hi.entityUniqueness_ne (by rw [← huid, ← hwid, he])
  have hlength : (m.uniquenessConstraintsOf f).length = 2 := by
    rw [← hi.twoConstraints, ← hf.map_id, List.length_map]
  have humem := mem_uniquenessConstraintsOf.mpr ⟨_, hi.identifier_mem, hu⟩
  have hwmem := mem_uniquenessConstraintsOf.mpr ⟨_, hi.entityUniqueness_mem, hw⟩
  refine ⟨⟨r.entity, r.entityRole, i, u, w⟩, ?_, ?_⟩
  · exact
      { roles := perm_pair_of_mem hi.twoRoles hi.entityRole_mem hmem hne
        constraints := perm_pair_of_mem hlength humem hwmem huw
        identifier_spans := by rw [hi.roleIds_identifier hu, hlone]
        other_spans := roleIds_eq_singleton hroles hi.entityRole_mem
          (constraintById_of_uniquenessById hw) hi.spans
        identified := by rw [huid, hi.identified]
        plays := entityThatPlays_of_id hi.player hi.identified
        mandatory := ⟨c, List.mem_filterMap.mpr ⟨cid, hc, hcfound⟩,
          roleIds_eq_singleton hroles hi.entityRole_mem
            (constraintById_of_mandatoryById hids hcfound) hclone⟩ }
  · simp only [Labelling.mode, huid, hwid, ← hrole]

/-! ## What fits is found -/

namespace Labels

theorem e_mem (h : m.Labels f l) : l.e ∈ f.roles := h.roles.mem_iff.mpr (by simp)

theorem i_mem (h : m.Labels f l) : l.i ∈ f.roles := h.roles.mem_iff.mpr (by simp)

theorem u_mem (h : m.Labels f l) : l.u ∈ m.uniquenessConstraintsOf f :=
  h.constraints.mem_iff.mpr (by simp)

theorem w_mem (h : m.Labels f l) : l.w ∈ m.uniquenessConstraintsOf f :=
  h.constraints.mem_iff.mpr (by simp)

theorem role_ne (h : m.Labels f l) (hroles : f.RolesIdentified) : l.e.id ≠ l.i.id := by
  have hnodup := (h.roles.map Role.id).nodup_iff.mp hroles.nodup
  simpa using hnodup

theorem constraint_ne (h : m.Labels f l) (hroles : f.RolesIdentified) : l.w.id ≠ l.u.id := by
  intro hid
  have hu := (uniquenessById_of_mem h.u_mem).2
  have hw := (uniquenessById_of_mem h.w_mem).2
  rw [hid, hu] at hw
  obtain hsame := Option.some.inj hw
  have hspans := h.identifier_spans
  rw [hsame, h.other_spans] at hspans
  exact h.role_ne hroles (List.head_eq_of_cons_eq hspans)

theorem find_other (h : m.Labels f l) (hroles : f.RolesIdentified) (hf : m.ConstraintsWithin f) :
    f.uniquenessIds.find? (fun v => v != l.u.id) = some l.w.id := by
  have hne := h.constraint_ne hroles
  rw [← hf.map_id]
  rcases List.perm_pair.mp h.constraints with hpair | hpair <;> simp [hpair, hne]

theorem role?_i (h : m.Labels f l) (hroles : f.RolesIdentified) : f.role? l.i.id = some l.i := by
  have hne := h.role_ne hroles
  rcases List.perm_pair.mp h.roles with hpair | hpair <;> simp [FactType.role?, hpair, hne]

/-- A mandatory constraint over the role of the entity type is found by its id. -/
theorem mandatory_id (h : m.Labels f l) (hids : m.constraintIds.Nodup) :
    ∃ c ∈ f.mandatoryIds, m.loneRoleOf c = l.e.id := by
  obtain ⟨c, hc, hspans⟩ := h.mandatory
  obtain ⟨cid, hcid, hfound⟩ := List.mem_filterMap.mp hc
  exact ⟨cid, hcid, loneRoleOf_of_roleIds (constraintById_of_mandatoryById hids hfound) hspans⟩

/-- **What fits is found.** The constraint of the identifier leads to the reference mode that has
the labelled parts. -/
theorem matchIdentifier_eq (h : m.Labels f l) (hids : m.constraintIds.Nodup)
    (hroles : f.RolesIdentified) (hf : m.ConstraintsWithin f) :
    m.matchIdentifier f l.u.id = .ok (some l.mode) := by
  have hother := h.find_other hroles hf
  have hu := constraintById_of_uniquenessById (uniquenessById_of_mem h.u_mem).2
  have hw := constraintById_of_uniquenessById (uniquenessById_of_mem h.w_mem).2
  have hlone : m.loneRoleOf l.u.id = l.i.id := loneRoleOf_of_roleIds hu h.identifier_spans
  have hlone' : m.loneRoleOf l.w.id = l.e.id := loneRoleOf_of_roleIds hw h.other_spans
  obtain ⟨i, hi⟩ := Option.ne_none_iff_exists'.mp (id_ne_none hroles h.i_mem)
  have hsearch : f.roles.findSomeM? (m.matchEntityRole f l.u.id l.entity l.i.id) =
      .ok (some l.mode) := by
    refine findSomeM?_of_pair (List.perm_pair.mp h.roles) ?_ ?_
    · rw [matchEntityRole_of_other hother, if_pos, h.role?_i hroles]
      · rfl
      · exact ⟨h.role_ne hroles, by rw [h.plays, Option.map_some], hlone', h.mandatory_id hids⟩
    · rw [matchEntityRole_of_other hother, if_neg]
      exact fun hc => hc.1 rfl
  unfold matchIdentifier
  rw [h.identified, hlone]
  rw [hi] at hsearch ⊢
  exact hsearch

/-- The constraint of the identifier determines all other labels. -/
theorem unique {l' : Labelling} (h : m.Labels f l) (h' : m.Labels f l')
    (hroles : f.RolesIdentified) (hu : l'.u = l.u) : l' = l := by
  obtain ⟨entity, e, i, u, w⟩ := l
  obtain ⟨entity', e', i', u', w'⟩ := l'
  obtain rfl : u' = u := hu
  have hid : [i'.id] = [i.id] := h'.identifier_spans.symm.trans h.identifier_spans
  obtain rfl : i' = i :=
    List.inj_on_of_nodup_map hroles.nodup h'.i_mem h.i_mem (List.head_eq_of_cons_eq hid)
  have hroles : ([e'] ++ [i']).Perm ([e] ++ [i']) := h'.roles.symm.trans h.roles
  obtain rfl : e' = e :=
    List.singleton_perm_singleton.mp ((List.perm_append_right_iff [i']).mp hroles)
  have hconstraints : [u', w'].Perm [u', w] := h'.constraints.symm.trans h.constraints
  obtain rfl : w' = w := List.singleton_perm_singleton.mp ((List.perm_cons u').mp hconstraints)
  obtain rfl : entity' = entity := Option.some.inj (h'.identified.symm.trans h.identified)
  rfl

end Labels

/-! ## The search -/

/-- A search among different constraints does not fail. -/
theorem matchReferenceMode_returns (hdiffer : f.uniquenessIds.Nodup) :
    ∃ o, m.matchReferenceMode f = .ok o := by
  cases hmatch : m.matchReferenceMode f with
  | ok o => exact ⟨o, rfl⟩
  | error fault =>
    obtain ⟨-, -, u, -, -, htwice, -⟩ := matchReferenceMode_eq_error_iff.mp hmatch
    simp [htwice] at hdiffer

/-- No constraint before the one with which labels are found has labels that fit. -/
theorem first_of_match {r : ReferenceMode} (hids : m.constraintIds.Nodup)
    (hroles : f.RolesIdentified) (hf : m.ConstraintsWithin f)
    (h : m.matchReferenceMode f = .ok (some r)) (l' : Labelling) (hl' : m.Labels f l') :
    f.uniquenessIds.idxOf r.identifierUniqueness ≤ f.uniquenessIds.idxOf l'.u.id := by
  unfold matchReferenceMode at h
  split at h
  · obtain ⟨before, u, after, hlist, hu, hbefore⟩ := exists_first_of_findSomeM? h
    obtain ⟨entity, identifier, -, -, role, -, hmatch⟩ := matchIdentifier_eq_ok_some hu
    obtain ⟨-, -, w, -, -, -, rfl⟩ := matchEntityRole_eq_ok_some hmatch
    have hfirst : u ∉ before := by
      intro hmem
      rw [hbefore u hmem] at hu
      cases hu
    have hlater : l'.u.id ∉ before := by
      intro hmem
      have hnone := hbefore l'.u.id hmem
      rw [hl'.matchIdentifier_eq hids hroles hf] at hnone
      cases hnone
    rw [hlist, List.idxOf_append_of_notMem hfirst, List.idxOf_append_of_notMem hlater,
      List.idxOf_cons_self]
    omega
  · cases h

/-- **Which fact types are reference modes.** Where no id is that of two constraints, take a fact
type with two roles and two uniqueness constraints, all with different ids, whose constraints are
found and span no roles but its own. It is recognised as a reference mode exactly if its parts have
labels that fit; these are then the ones for the first of its uniqueness constraints with which any
fit, and they are the only ones for that constraint. -/
theorem first_labelling_recognised (hids : m.constraintIds.Nodup) (htwo : f.roles.length = 2)
    (hroles : f.RolesIdentified) (hpair : f.uniquenessIds.length = 2)
    (hdiffer : f.uniquenessIds.Nodup) (hf : m.ConstraintsWithin f) : m.Recognises f where
  returns := matchReferenceMode_returns hdiffer
  found := by
    constructor
    · rintro ⟨r, hmatch⟩
      obtain ⟨l, hl, -⟩ := labels_of_match hids hroles hf hmatch
      exact ⟨l, hl⟩
    · rintro ⟨l, hl⟩
      have hlist := (uniquenessById_of_mem hl.u_mem).1
      have hfound := hl.matchIdentifier_eq hids hroles hf
      obtain ⟨o, hmatch⟩ := m.matchReferenceMode_returns hdiffer
      cases o with
      | some r => exact ⟨r, hmatch⟩
      | none =>
        -- nothing is found with the constraint of the labels either
        unfold matchReferenceMode at hmatch
        rw [if_pos ⟨htwo, hpair⟩] at hmatch
        rw [forall_of_findSomeM?_eq_none hmatch _ hlist] at hfound
        cases hfound
  first := by
    intro r hmatch
    obtain ⟨l, hl, rfl⟩ := labels_of_match hids hroles hf hmatch
    refine ⟨l, hl, rfl, first_of_match hids hroles hf hmatch, ?_⟩
    intro l' hl' hu
    exact hl.unique hl' hroles hu

end Model

/-! ## Persons and passports -/

namespace Passports

def person : ObjectType :=
  { id := some "person", name := "Person", kind := .entity,
    preferredIdentifier := some "one person" }

def passport : ObjectType :=
  { id := some "passport", name := "Passport", kind := .entity,
    preferredIdentifier := some "one passport" }

def holder : Role := { id := some "holder", factTypeId := some "holds", playerId := some "person" }

def held : Role := { id := some "held", factTypeId := some "holds", playerId := some "passport" }

/-- Every person holds a passport; persons are identified by their passports and passports by their
persons. -/
def holds : FactType where
  id := some "holds"
  name := "PersonHoldsPassport"
  roles := [holder, held]
  uniquenessIds := [some "one passport", some "one person"]
  mandatoryIds := [some "all hold"]

def model : Model where
  objects := [person, passport]
  factTypes := [holds]
  uniquenessConstraints := [{ id := some "one passport", roleIds := [some "holder"] },
    { id := some "one person", roleIds := [some "held"] }]
  mandatoryConstraints := [{ id := some "all hold", roleIds := [some "holder"] }]

theorem rolesIdentified : holds.RolesIdentified := ⟨by decide, by decide⟩

theorem constraintsWithin : model.ConstraintsWithin holds where
  uniqueness := by
    intro id hid
    rcases List.mem_cons.mp hid with rfl | hid
    · exact ⟨_, rfl, by decide⟩
    · obtain rfl := List.mem_singleton.mp hid
      exact ⟨_, rfl, by decide⟩
  mandatory := by
    intro id hid
    obtain rfl := List.mem_singleton.mp hid
    exact ⟨_, rfl, by decide⟩

theorem match_holds : model.matchReferenceMode holds =
    .ok (some ⟨person, holder, some held, some "one passport", some "one person"⟩) := rfl

/-- Both constraints identify an entity type, but not every passport is held, so that the first one
is passed over. -/
theorem first_labelling_recognised_held :
    model.constraintIds.Nodup ∧ holds.roles.length = 2 ∧ holds.RolesIdentified ∧
      holds.uniquenessIds.length = 2 ∧ holds.uniquenessIds.Nodup ∧
      model.ConstraintsWithin holds ∧ model.Recognises holds ∧
      model.matchReferenceMode holds =
        .ok (some ⟨person, holder, some held, some "one passport", some "one person"⟩) := by
  have hids : model.constraintIds.Nodup := by decide
  have hdiffer : holds.uniquenessIds.Nodup := by decide
  exact ⟨hids, rfl, rolesIdentified, rfl, hdiffer, constraintsWithin,
    Model.first_labelling_recognised hids rfl rolesIdentified rfl hdiffer constraintsWithin,
    match_holds⟩

end Passports

end RoleSchema
