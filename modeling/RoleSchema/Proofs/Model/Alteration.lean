import Mathlib.Data.List.Basic
import Mathlib.Order.Hom.Basic
import RoleSchema.Concept
import RoleSchema.Proofs.Model.Lookup

/-!
# Models in which positions and players are noted otherwise

The elements of a model can be given other positions that leave them in their order, and who plays
a role can be noted otherwise, with the role or with its player. Neither is asked for when elements
are looked up, so a look-up among the altered elements finds the altered element. Who plays a role
is what the two notes come to, and is asked for by the id of the player.

* `Renumbering`, `Model.moved`: new positions, and the model in which elements have them.
* `Alteration`, `Model.altered`: new positions and new notes, and the model with these.
* `objectById_altered`, `entityIdentifiedBy_altered`: what questions are answered.
* `rolePlayer_altered`: who plays a role, if the id of the player is as it was.
* `sorted_altered`: altered elements that are put in order.
-/

namespace RoleSchema

/-! ## Positions -/

/-- New positions for the object types, the fact types and subtype facts, and the constraints of a
model. What comes later still comes later. -/
structure Renumbering where
  objects : Int ↪o Int
  facts : Int ↪o Int
  constraints : Int ↪o Int

section

variable (p : Int ↪o Int)

def ObjectType.moved (o : ObjectType) : ObjectType := { o with order := p o.order }

def FactType.moved (f : FactType) : FactType := { f with order := p f.order }

def SubtypeFact.moved (s : SubtypeFact) : SubtypeFact := { s with order := p s.order }

def UniquenessConstraint.moved (u : UniquenessConstraint) : UniquenessConstraint :=
  { u with order := p u.order }

def MandatoryConstraint.moved (c : MandatoryConstraint) : MandatoryConstraint :=
  { c with order := p c.order }

def Constraint.moved : Constraint → Constraint
  | .uniqueness u => .uniqueness (u.moved p)
  | .mandatory c => .mandatory (c.moved p)

/-- Different fact types stay different. -/
theorem FactType.moved_injective : Function.Injective (FactType.moved p) := by
  intro f g h
  have horder : p f.order = p g.order := congrArg FactType.order h
  obtain ⟨id, name, roles, uniquenessIds, mandatoryIds, order⟩ := f
  obtain ⟨id', name', roles', uniquenessIds', mandatoryIds', order'⟩ := g
  simp only [FactType.moved, FactType.mk.injEq] at h ⊢
  exact ⟨h.1, h.2.1, h.2.2.1, h.2.2.2.1, h.2.2.2.2.1, p.injective horder⟩

@[simp] theorem Constraint.roleIds_moved (c : Constraint) : (c.moved p).roleIds = c.roleIds := by
  cases c <;> rfl

end

/-- The model with its elements at new positions. -/
def Model.moved (r : Renumbering) (m : Model) : Model where
  name := m.name
  objects := m.objects.map (ObjectType.moved r.objects)
  factTypes := m.factTypes.map (FactType.moved r.facts)
  subtypeFacts := m.subtypeFacts.map (SubtypeFact.moved r.facts)
  uniquenessConstraints := m.uniquenessConstraints.map (UniquenessConstraint.moved r.constraints)
  mandatoryConstraints := m.mandatoryConstraints.map (MandatoryConstraint.moved r.constraints)
  dataTypes := m.dataTypes
  diagrams := m.diagrams

/-! ## Positions and players -/

/-- New positions, and new notes of who plays a role. -/
structure Alteration extends Renumbering where
  /-- The player that a role names. -/
  named : Role → Id
  /-- The roles that an object type lists as played. -/
  listed : ObjectType → List Id

/-- The alteration that leaves all notes as they are. -/
def Renumbering.alteration (r : Renumbering) : Alteration :=
  { r with named := Role.playerId, listed := ObjectType.playedRoles }

section

variable (a : Alteration)

def Role.altered (r : Role) : Role := { r with playerId := a.named r }

def ObjectType.altered (o : ObjectType) : ObjectType :=
  { o with order := a.objects o.order, playedRoles := a.listed o }

def FactType.altered (f : FactType) : FactType :=
  { f with roles := f.roles.map (Role.altered a), order := a.facts f.order }

@[simp] theorem Role.id_altered (r : Role) : (r.altered a).id = r.id := rfl

@[simp] theorem Role.name_altered (r : Role) : (r.altered a).name = r.name := rfl

@[simp] theorem FactType.name_altered (f : FactType) : (f.altered a).name = f.name := rfl

@[simp] theorem FactType.uniquenessIds_altered (f : FactType) :
    (f.altered a).uniquenessIds = f.uniquenessIds := rfl

@[simp] theorem FactType.mandatoryIds_altered (f : FactType) :
    (f.altered a).mandatoryIds = f.mandatoryIds := rfl

@[simp] theorem FactType.roleIds_altered (f : FactType) : (f.altered a).roleIds = f.roleIds :=
  List.map_map

@[simp] theorem FactType.hasNamedRoles_altered (f : FactType) :
    (f.altered a).hasNamedRoles = f.hasNamedRoles := List.any_map

@[simp] theorem FactType.rolesExcludedBy_altered (f : FactType) (u : UniquenessConstraint) :
    (f.altered a).rolesExcludedBy u = f.rolesExcludedBy u := by
  unfold FactType.rolesExcludedBy
  rw [f.roleIds_altered]

theorem FactType.role?_altered (f : FactType) (id : Id) :
    (f.altered a).role? id = (f.role? id).map (Role.altered a) := List.find?_map

end

/-- The model with its elements altered. -/
def Model.altered (a : Alteration) (m : Model) : Model where
  name := m.name
  objects := m.objects.map (ObjectType.altered a)
  factTypes := m.factTypes.map (FactType.altered a)
  subtypeFacts := m.subtypeFacts.map (SubtypeFact.moved a.facts)
  uniquenessConstraints := m.uniquenessConstraints.map (UniquenessConstraint.moved a.constraints)
  mandatoryConstraints := m.mandatoryConstraints.map (MandatoryConstraint.moved a.constraints)
  dataTypes := m.dataTypes
  diagrams := m.diagrams

theorem FactType.altered_alteration (r : Renumbering) (f : FactType) :
    f.altered r.alteration = f.moved r.facts := by
  have hroles : f.roles.map (Role.altered r.alteration) = f.roles := List.map_id' f.roles
  rw [altered, hroles]
  rfl

/-- Moving the elements of a model is an alteration. -/
theorem Model.altered_alteration (r : Renumbering) (m : Model) :
    m.altered r.alteration = m.moved r := by
  have hfacts : m.factTypes.map (FactType.altered r.alteration) =
      m.factTypes.map (FactType.moved r.facts) :=
    List.map_congr_left fun f _ => f.altered_alteration r
  rw [altered, hfacts]
  rfl

/-! ## Searches -/

section

variable {α β : Type} (f : α → β) (p : β → Bool) (xs : List α)

theorem findLast?_map : findLast? p (xs.map f) = (findLast? (p ∘ f) xs).map f := by
  unfold findLast?
  rw [← List.map_reverse, List.find?_map]

/-- What is found by an id that does not depend on what has been changed. -/
theorem lookUp_map (id : Id) (q : α → Bool) (hq : p ∘ f = q) :
    (if id.isGiven then findLast? p (xs.map f) else none) =
      (if id.isGiven then findLast? q xs else none).map f := by
  subst hq
  split
  · exact findLast?_map f p xs
  · rfl

/-- A change that keeps different elements different can be made before elements are taken once
each, or afterwards. -/
theorem eraseDups_map [BEq α] [LawfulBEq α] [BEq β] [LawfulBEq β] {f : α → β} :
    ∀ xs : List α, (∀ x ∈ xs, ∀ y ∈ xs, f x = f y → x = y) →
      (xs.map f).eraseDups = xs.eraseDups.map f
  | [], _ => rfl
  | x :: xs, hf => by
    have hrest : (xs.map f).filter (fun y => !y == f x) = (xs.filter fun y => !y == x).map f := by
      rw [List.filter_map]
      congr 1
      refine List.filter_congr fun y hy => ?_
      have hxy : f y = f x ↔ y = x :=
        ⟨hf y (List.mem_cons_of_mem x hy) x (List.mem_cons_self ..), congrArg f⟩
      simp only [Function.comp_apply, beq_eq_beq.mpr hxy]
    have hsub : ∀ y ∈ xs.filter (fun y => !y == x), y ∈ x :: xs :=
      fun y hy => List.mem_cons_of_mem x (List.mem_of_mem_filter hy)
    rw [List.map_cons, List.eraseDups_cons, List.eraseDups_cons, List.map_cons, hrest,
      eraseDups_map _ fun y hy z hz => hf y (hsub y hy) z (hsub z hz)]
termination_by xs => xs.length
decreasing_by exact Nat.lt_succ_of_le (List.length_filter_le _ _)

end

namespace Model

variable {m : Model} {a : Alteration}

/-! ## By id and by name -/

theorem objectById_altered (id : Id) :
    (m.altered a).objectById id = (m.objectById id).map (ObjectType.altered a) :=
  lookUp_map _ _ _ id _ rfl

theorem entityById_altered (id : Id) :
    (m.altered a).entityById id = (m.entityById id).map (ObjectType.altered a) := by
  unfold entityById
  rw [objectById_altered, Option.filter_map]
  rfl

theorem entityByName_altered (name : String) :
    (m.altered a).entityByName name = (m.entityByName name).map (ObjectType.altered a) :=
  List.find?_map

theorem factTypeById_altered (id : Id) :
    (m.altered a).factTypeById id = (m.factTypeById id).map (FactType.altered a) :=
  lookUp_map _ _ _ id _ rfl

theorem uniquenessById_altered (id : Id) : (m.altered a).uniquenessById id =
    (m.uniquenessById id).map (UniquenessConstraint.moved a.constraints) :=
  lookUp_map _ _ _ id _ rfl

theorem mandatoryById_altered (id : Id) : (m.altered a).mandatoryById id =
    (m.mandatoryById id).map (MandatoryConstraint.moved a.constraints) :=
  lookUp_map _ _ _ id _ rfl

theorem constraintById_altered (id : Id) : (m.altered a).constraintById id =
    (m.constraintById id).map (Constraint.moved a.constraints) := by
  have huniqueness : findLast? (fun u => u.id == id) (m.altered a).uniquenessConstraints =
      (findLast? (fun u => u.id == id) m.uniquenessConstraints).map
        (UniquenessConstraint.moved a.constraints) := findLast?_map _ _ _
  have hmandatory : findLast? (fun c => c.id == id) (m.altered a).mandatoryConstraints =
      (findLast? (fun c => c.id == id) m.mandatoryConstraints).map
        (MandatoryConstraint.moved a.constraints) := findLast?_map _ _ _
  unfold constraintById
  rw [huniqueness, hmandatory]
  cases findLast? (fun u => u.id == id) m.uniquenessConstraints with
  | none => cases findLast? (fun c => c.id == id) m.mandatoryConstraints <;> rfl
  | some u => rfl

theorem loneRoleOf_altered (id : Id) : (m.altered a).loneRoleOf id = m.loneRoleOf id := by
  have hroles : ((m.altered a).constraintById id).map Constraint.roleIds =
      (m.constraintById id).map Constraint.roleIds := by
    rw [constraintById_altered, Option.map_map]
    cases m.constraintById id with
    | none => rfl
    | some c => exact congrArg some (c.roleIds_moved a.constraints)
  unfold loneRoleOf
  rw [hroles]

/-! ## Roles and their players -/

theorem roleById_altered (id : Id) :
    (m.altered a).roleById id = (m.roleById id).map (Role.altered a) := by
  have hroles : (m.altered a).factTypes.flatMap FactType.roles =
      (m.factTypes.flatMap FactType.roles).map (Role.altered a) := by
    rw [List.map_flatMap]
    exact List.flatMap_map _ _ _
  unfold roleById
  rw [hroles]
  exact List.find?_map

theorem listedPlayer_altered (role : Id) : (m.altered a).listedPlayer role =
    (m.objects.find? fun o => (a.listed o).contains role).map (ObjectType.altered a) :=
  List.find?_map

theorem factTypeWithRole_altered (role : Id) :
    (m.altered a).factTypeWithRole role =
      (m.factTypeWithRole role).map (FactType.altered a) := by
  refine List.find?_map.trans ?_
  simp only [Function.comp_def, FactType.roleIds_altered]
  rfl

/-- The player of a role is the one that its new note names, or else the first object type that
lists it now. -/
theorem playerId_altered (role : Id) : (m.altered a).playerId role =
    match (m.roleById role).filter fun r => (a.named r).isGiven with
    | some r => a.named r
    | none => (m.objects.find? fun o => (a.listed o).contains role).bind ObjectType.id := by
  have hnamed : ((m.altered a).roleById role).filter (fun r => r.playerId.isGiven) =
      ((m.roleById role).filter fun r => (a.named r).isGiven).map (Role.altered a) := by
    rw [roleById_altered, Option.filter_map]
    rfl
  unfold playerId
  rw [hnamed, listedPlayer_altered]
  cases (m.roleById role).filter fun r => (a.named r).isGiven with
  | some r => rfl
  | none => cases m.objects.find? fun o => (a.listed o).contains role <;> rfl

theorem playerId_moved (r : Renumbering) (role : Id) :
    (m.altered r.alteration).playerId role = m.playerId role := playerId_altered role

section

variable {role : Id} (h : (m.altered a).playerId role = m.playerId role)
include h

theorem rolePlayer_altered :
    (m.altered a).rolePlayer role = (m.rolePlayer role).map (ObjectType.altered a) := by
  unfold rolePlayer
  rw [h, objectById_altered]

theorem entityThatPlays_altered : (m.altered a).entityThatPlays role =
    (m.entityThatPlays role).map (ObjectType.altered a) := by
  unfold entityThatPlays
  rw [rolePlayer_altered h, Option.filter_map]
  rfl

theorem dataTypeOfPlayer_altered :
    (m.altered a).dataTypeOfPlayer role = m.dataTypeOfPlayer role := by
  unfold dataTypeOfPlayer
  rw [rolePlayer_altered h]
  cases m.rolePlayer role <;> rfl

theorem isImplicitBoolean_altered :
    (m.altered a).isImplicitBoolean role = m.isImplicitBoolean role := by
  unfold isImplicitBoolean
  rw [rolePlayer_altered h]
  cases m.rolePlayer role <;> rfl

end

/-! ## Subtypes and diagrams -/

/-- What subtype facts lead to does not depend on their positions. -/
theorem linked_altered (test : SubtypeFact → Bool) (ref : SubtypeFact → Id)
    (htest : test ∘ SubtypeFact.moved a.facts = test)
    (href : ref ∘ SubtypeFact.moved a.facts = ref) :
    ((m.altered a).subtypeFacts.filterMap fun s =>
        if test s then (m.altered a).entityById (ref s) else none) =
      (m.subtypeFacts.filterMap fun s => if test s then m.entityById (ref s) else none).map
        (ObjectType.altered a) := by
  rw [List.map_filterMap]
  refine (List.filterMap_map ..).trans (List.filterMap_congr fun s _ => ?_)
  have htest' : test (s.moved a.facts) = test s := congrFun htest s
  have href' : ref (s.moved a.facts) = ref s := congrFun href s
  rw [Function.comp_apply, htest', href', entityById_altered]
  cases test s <;> rfl

theorem superTypes_altered (e : ObjectType) :
    (m.altered a).superTypes (e.altered a) = (m.superTypes e).map (ObjectType.altered a) :=
  linked_altered (fun s => s.subtypeId == e.id) SubtypeFact.supertypeId rfl rfl

theorem subTypes_altered (e : ObjectType) :
    (m.altered a).subTypes (e.altered a) = (m.subTypes e).map (ObjectType.altered a) :=
  linked_altered (fun s => s.supertypeId == e.id) SubtypeFact.subtypeId rfl rfl

/-- The fact types on a diagram are the altered ones, if different ones stay different. -/
theorem factTypesInDiagram_altered
    (h : ∀ f ∈ m.factTypes, ∀ g ∈ m.factTypes, f.altered a = g.altered a → f = g) (d : Diagram) :
    (m.altered a).factTypesInDiagram d = (m.factTypesInDiagram d).map (FactType.altered a) := by
  have hdrawn : d.factTypeRefs.filterMap (m.altered a).factTypeById =
      (d.factTypeRefs.filterMap m.factTypeById).map (FactType.altered a) := by
    rw [List.map_filterMap]
    exact List.filterMap_congr fun id _ => factTypeById_altered id
  have hmem : ∀ f ∈ d.factTypeRefs.filterMap m.factTypeById, f ∈ m.factTypes := fun f hf => by
    obtain ⟨id, -, hid⟩ := List.mem_filterMap.mp hf
    exact (factTypeById_eq_some hid).2.1
  unfold factTypesInDiagram
  rw [hdrawn, eraseDups_map _ fun f hf g hg => h f (hmem f hf) g (hmem g hg)]

theorem resolveConcept_altered (d : Diagram) :
    (m.altered a).resolveConcept d = (m.resolveConcept d).map (ObjectType.altered a) := by
  unfold resolveConcept
  split
  · rfl
  · next token _ =>
    rw [entityByName_altered]
    cases m.entityByName token with
    | none => rfl
    | some e =>
      simp only [Option.map_some, ObjectType.altered]
      split <;> rfl

/-! ## Constraints -/

theorem uniquenessConstraintsOf_altered (f : FactType) :
    (m.altered a).uniquenessConstraintsOf (f.altered a) =
      (m.uniquenessConstraintsOf f).map (UniquenessConstraint.moved a.constraints) := by
  unfold uniquenessConstraintsOf
  rw [List.map_filterMap]
  exact List.filterMap_congr fun id _ => uniquenessById_altered id

theorem mandatoryConstraintsOf_altered (f : FactType) :
    (m.altered a).mandatoryConstraintsOf (f.altered a) =
      (m.mandatoryConstraintsOf f).map (MandatoryConstraint.moved a.constraints) := by
  unfold mandatoryConstraintsOf
  rw [List.map_filterMap]
  exact List.filterMap_congr fun id _ => mandatoryById_altered id

theorem uniquenessExcludingRole_altered (role : Id) (f : FactType) :
    (m.altered a).uniquenessExcludingRole role (f.altered a) =
      (m.uniquenessExcludingRole role f).map (UniquenessConstraint.moved a.constraints) := by
  unfold uniquenessExcludingRole
  rw [uniquenessConstraintsOf_altered]
  exact List.find?_map

theorem entityIdentifiedBy_altered (uniqueness : Id) :
    (m.altered a).entityIdentifiedBy uniqueness =
      (m.entityIdentifiedBy uniqueness).map (ObjectType.altered a) := by
  have hnaming : (m.altered a).objects.find? (fun o => o.isEntity &&
        o.preferredIdentifier.isGiven && o.preferredIdentifier == uniqueness) =
      (m.objects.find? fun o => o.isEntity && o.preferredIdentifier.isGiven &&
        o.preferredIdentifier == uniqueness).map (ObjectType.altered a) := List.find?_map
  have hnamed : (m.altered a).uniquenessConstraints.find? (fun u =>
        u.preferredIdentifierFor.isGiven && u.id == uniqueness) =
      (m.uniquenessConstraints.find? fun u =>
        u.preferredIdentifierFor.isGiven && u.id == uniqueness).map
          (UniquenessConstraint.moved a.constraints) := List.find?_map
  have hidentified : (m.altered a).identifiedId uniqueness = m.identifiedId uniqueness := by
    unfold identifiedId
    rw [hnaming, hnamed]
    cases m.objects.find? _ with
    | some o => rfl
    | none => cases m.uniquenessConstraints.find? _ <;> rfl
  unfold entityIdentifiedBy
  rw [hidentified, entityById_altered]

theorem identifyingFactType_altered (e : ObjectType) :
    (m.altered a).identifyingFactType (e.altered a) =
      (m.identifyingFactType e).map (FactType.altered a) := by
  have hroles : ((m.altered a).uniquenessById e.preferredIdentifier).map
        UniquenessConstraint.roleIds =
      (m.uniquenessById e.preferredIdentifier).map UniquenessConstraint.roleIds := by
    rw [uniquenessById_altered, Option.map_map]
    rfl
  unfold identifyingFactType
  simp only [ObjectType.altered, hroles]
  split
  · exact factTypeWithRole_altered _
  · rfl

/-! ## The order of the document -/

theorem inOrder_map {α : Type} {position : α → Int} {f : α → α} {p : Int ↪o Int}
    (hf : ∀ x, position (f x) = p (position x)) (xs : List α) :
    inOrder position (xs.map f) = (inOrder position xs).map f := by
  unfold inOrder
  refine (List.map_mergeSort fun x _ y _ => ?_).symm
  simp only [hf, p.le_iff_le]

/-- Elements may be altered before they are put in order, or afterwards. -/
theorem sorted_altered (a : Alteration) (m : Model) :
    (m.altered a).sorted = m.sorted.altered a := by
  unfold sorted altered
  congr 1
  case e_objects => exact inOrder_map (f := ObjectType.altered a) (fun _ => rfl) _
  case e_factTypes => exact inOrder_map (f := FactType.altered a) (fun _ => rfl) _
  case e_subtypeFacts => exact inOrder_map (f := SubtypeFact.moved a.facts) (fun _ => rfl) _
  case e_uniquenessConstraints =>
    exact inOrder_map (f := UniquenessConstraint.moved a.constraints) (fun _ => rfl) _
  case e_mandatoryConstraints =>
    exact inOrder_map (f := MandatoryConstraint.moved a.constraints) (fun _ => rfl) _

theorem sorted_moved (r : Renumbering) (m : Model) : (m.moved r).sorted = m.sorted.moved r := by
  rw [← altered_alteration, ← altered_alteration, sorted_altered]

end Model

end RoleSchema
