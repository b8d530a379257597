import RoleSchema.Concept
import RoleSchema.Proofs.Model.Lookup
import RoleSchema.Proofs.Model.Order
import Mathlib.Data.List.Basic
import Mathlib.Data.List.Find

/-!
# Models with further elements

A model mentions the ids of its elements and what they refer to. An extension of the model has
further elements between those of the model, under ids that the model does not mention. To a question
about what the model mentions it gives the answer of the model, be it the first or the last element
of its kind that is found; only below an entity type there may be further subtypes.

* `Model.ExtendedBy`: one model has the elements of another, and further ones.
* `ExtendedBy.rolePlayer`, `ExtendedBy.entityIdentifiedBy`, `ExtendedBy.superTypes`: answers that
  stay.
* `ExtendedBy.filter_subTypes`: what an extension adds to the subtypes.
-/

namespace RoleSchema

/-! ## Searches that pass over elements -/

section

variable {α β : Type} {xs : List α} {p q : α → Bool}

theorem find?_filter_of (h : ∀ x ∈ xs, p x = true → q x = true) :
    (xs.filter q).find? p = xs.find? p := by
  rw [List.find?_filter]
  refine List.find?_congr fun x hx => ?_
  cases hp : p x with
  | false => simp
  | true => simp [h x hx hp]

theorem findLast?_filter_of (h : ∀ x ∈ xs, p x = true → q x = true) :
    findLast? p (xs.filter q) = findLast? p xs := by
  unfold findLast?
  rw [← List.filter_reverse]
  exact find?_filter_of fun x hx => h x (List.mem_reverse.mp hx)

theorem filterMap_filter_of {f : α → Option β} (h : ∀ x ∈ xs, q x = false → f x = none) :
    (xs.filter q).filterMap f = xs.filterMap f := by
  rw [List.filterMap_filter]
  refine List.filterMap_congr fun x hx => ?_
  cases hq : q x with
  | false => simp [h x hx hq]
  | true => simp

theorem flatMap_filter_of {f : α → List β} (h : ∀ x ∈ xs, q x = false → f x = []) :
    (xs.filter q).flatMap f = xs.flatMap f := by
  induction xs with
  | nil => rfl
  | cons x xs ih =>
    have hxs := ih fun y hy => h y (List.mem_cons_of_mem _ hy)
    rw [List.filter_cons, List.flatMap_cons]
    cases hq : q x with
    | false => rw [if_neg Bool.false_ne_true, hxs, h x (List.mem_cons_self ..) hq, List.nil_append]
    | true => rw [if_pos rfl, List.flatMap_cons, hxs]

theorem findSome?_filter_of {f : α → Option β} (h : ∀ x ∈ xs, q x = false → f x = none) :
    (xs.filter q).findSome? f = xs.findSome? f := by
  rw [← List.head?_filterMap, ← List.head?_filterMap, filterMap_filter_of h]

end

/-! ## What a model mentions -/

/-- A reference, if it is given. -/
def Id.references (id : Id) : List Id := if id.isGiven then [id] else []

def ObjectType.mentions (o : ObjectType) : List Id :=
  o.id :: o.preferredIdentifier.references ++ o.dataType.references ++ o.playedRoles

def Role.mentions (r : Role) : List Id := r.id :: r.factTypeId :: r.playerId.references

def FactType.mentions (f : FactType) : List Id :=
  f.id :: f.roles.flatMap Role.mentions ++ f.uniquenessIds ++ f.mandatoryIds

def SubtypeFact.mentions (s : SubtypeFact) : List Id :=
  s.id :: s.subtypeId :: s.supertypeId ::
    s.subtypeRoleId.references ++ s.supertypeRoleId.references

def UniquenessConstraint.mentions (u : UniquenessConstraint) : List Id :=
  u.id :: u.roleIds ++ u.preferredIdentifierFor.references

def MandatoryConstraint.mentions (c : MandatoryConstraint) : List Id := c.id :: c.roleIds

def Diagram.mentions (d : Diagram) : List Id := d.id :: d.subjectRefs ++ d.factTypeRefs

namespace Model

/-- The ids of the elements and the roles of a model, and all that is referred to. -/
def mentions (m : Model) : List Id :=
  m.objects.flatMap ObjectType.mentions ++ m.factTypes.flatMap FactType.mentions ++
    m.subtypeFacts.flatMap SubtypeFact.mentions ++
    m.uniquenessConstraints.flatMap UniquenessConstraint.mentions ++
    m.mandatoryConstraints.flatMap MandatoryConstraint.mentions ++
    m.dataTypes.map DataType.id ++ m.diagrams.flatMap Diagram.mentions

/-- Whether an id occurs in a model. -/
def knows (m : Model) (id : Id) : Bool := m.mentions.contains id

variable {m m' : Model} {id : Id}

theorem ne_of_knows {id' : Id} (h : m.knows id = true) (h' : m.knows id' = false) : id' ≠ id := by
  rintro rfl
  rw [h] at h'
  cases h'

theorem mem_references (h : id.isGiven = true) : id ∈ id.references := by
  simp [Id.references, h]

/-- An id is known from an element that mentions it. -/
theorem knows_iff : m.knows id = true ↔
    (∃ o ∈ m.objects, id ∈ o.mentions) ∨ (∃ f ∈ m.factTypes, id ∈ f.mentions) ∨
      (∃ s ∈ m.subtypeFacts, id ∈ s.mentions) ∨
      (∃ u ∈ m.uniquenessConstraints, id ∈ u.mentions) ∨
      (∃ c ∈ m.mandatoryConstraints, id ∈ c.mentions) ∨ (∃ t ∈ m.dataTypes, t.id = id) ∨
      ∃ d ∈ m.diagrams, id ∈ d.mentions := by
  simp only [knows, mentions, List.contains_iff_mem, List.mem_append, List.mem_flatMap,
    List.mem_map, or_assoc]

theorem knows_of_object {o : ObjectType} (ho : o ∈ m.objects) (h : id ∈ o.mentions) :
    m.knows id = true := knows_iff.mpr (Or.inl ⟨o, ho, h⟩)

theorem knows_of_factType {f : FactType} (hf : f ∈ m.factTypes) (h : id ∈ f.mentions) :
    m.knows id = true := knows_iff.mpr (Or.inr (Or.inl ⟨f, hf, h⟩))

theorem knows_of_subtypeFact {s : SubtypeFact} (hs : s ∈ m.subtypeFacts) (h : id ∈ s.mentions) :
    m.knows id = true := knows_iff.mpr (Or.inr (Or.inr (Or.inl ⟨s, hs, h⟩)))

theorem knows_of_uniqueness {u : UniquenessConstraint} (hu : u ∈ m.uniquenessConstraints)
    (h : id ∈ u.mentions) : m.knows id = true :=
  knows_iff.mpr (Or.inr (Or.inr (Or.inr (Or.inl ⟨u, hu, h⟩))))

theorem knows_of_diagram {d : Diagram} (hd : d ∈ m.diagrams) (h : id ∈ d.mentions) :
    m.knows id = true :=
  knows_iff.mpr (Or.inr (Or.inr (Or.inr (Or.inr (Or.inr (Or.inr ⟨d, hd, h⟩))))))

theorem knows_role {f : FactType} (hf : f ∈ m.factTypes) {r : Role} (hr : r ∈ f.roles)
    (h : id ∈ r.mentions) : m.knows id = true := by
  refine knows_of_factType hf ?_
  simp only [FactType.mentions, List.cons_append, List.mem_cons, List.mem_append, List.mem_flatMap]
  exact Or.inr (Or.inl (Or.inl ⟨r, hr, h⟩))

/-- The player of a role is known, if there is one. -/
theorem knows_playerId (h : (m.playerId id).isGiven = true) : m.knows (m.playerId id) = true := by
  unfold playerId at h ⊢
  split
  · next r hr =>
    obtain ⟨hrole, hgiven⟩ := Option.filter_eq_some_iff.mp hr
    obtain ⟨f, hf, hmem⟩ := List.mem_flatMap.mp (List.mem_of_find?_eq_some hrole)
    exact knows_role hf hmem (by simp [Role.mentions, mem_references hgiven])
  · next hr =>
    rw [hr] at h
    cases ho : m.listedPlayer id with
    | none =>
      rw [ho] at h
      cases h
    | some o =>
      exact knows_of_object (List.mem_of_find?_eq_some ho) (by simp [ObjectType.mentions])

/-- What a constraint identifies is known, if there is anything. -/
theorem knows_identifiedId (h : (m.identifiedId id).isGiven = true) :
    m.knows (m.identifiedId id) = true := by
  unfold identifiedId at h ⊢
  split
  · next o ho => exact knows_of_object (List.mem_of_find?_eq_some ho) (by simp [ObjectType.mentions])
  · next ho =>
    rw [ho] at h
    cases hu : m.uniquenessConstraints.find? fun u =>
        u.preferredIdentifierFor.isGiven && u.id == id with
    | none =>
      rw [hu] at h
      cases h
    | some u =>
      have hgiven : u.preferredIdentifierFor.isGiven = true := by
        have hp := List.find?_some hu
        exact (Bool.and_eq_true_iff.mp hp).1
      refine knows_of_uniqueness (List.mem_of_find?_eq_some hu) ?_
      simp [UniquenessConstraint.mentions, mem_references hgiven]

/-- What is not known has no subtypes. -/
theorem subTypes_eq_nil_of_unknown {e : ObjectType} (he : m.knows e.id = false) :
    m.subTypes e = [] := by
  unfold subTypes
  rw [List.filterMap_eq_nil_iff]
  intro s hs
  rw [if_neg]
  intro hid
  have hknown : m.knows s.supertypeId = true :=
    knows_of_subtypeFact hs (by simp [SubtypeFact.mentions])
  exact ne_of_knows hknown he (eq_of_beq hid).symm

/-! ## Further elements -/

/-- A model has the elements of another in their order, and between them further elements under ids
that the other does not know. The further elements may refer to those of the other, but do not lay
hold of them: their roles, the roles that they list as played, the constraints that they name as
identifiers and the types that they make subtypes are unknown to it, and no entity type is named like
the concept of a diagram. The diagrams are the same. What further constraints span is left open: no
one asks for it who does not know the constraint. -/
structure ExtendedBy (m m' : Model) : Prop where
  objects : m'.objects.filter (fun o => m.knows o.id) = m.objects
  factTypes : m'.factTypes.filter (fun f => m.knows f.id) = m.factTypes
  subtypeFacts : m'.subtypeFacts.filter (fun s => m.knows s.id) = m.subtypeFacts
  uniquenessConstraints :
    m'.uniquenessConstraints.filter (fun u => m.knows u.id) = m.uniquenessConstraints
  mandatoryConstraints :
    m'.mandatoryConstraints.filter (fun c => m.knows c.id) = m.mandatoryConstraints
  dataTypes : m'.dataTypes.filter (fun t => m.knows t.id) = m.dataTypes
  diagrams : m'.diagrams = m.diagrams
  roles : ∀ f ∈ m'.factTypes, m.knows f.id = false → ∀ r ∈ f.roles, m.knows r.id = false
  playedRoles : ∀ o ∈ m'.objects, m.knows o.id = false → ∀ r ∈ o.playedRoles, m.knows r = false
  identifiers : ∀ o ∈ m'.objects, m.knows o.id = false → o.preferredIdentifier.isGiven = true →
    m.knows o.preferredIdentifier = false
  subtypes : ∀ s ∈ m'.subtypeFacts, m.knows s.id = false → m.knows s.subtypeId = false
  names : ∀ o ∈ m'.objects, m.knows o.id = false → o.isEntity = true →
    ∀ d ∈ m.diagrams, conceptToken d.name ≠ some o.name

namespace ExtendedBy

/-! ## By id -/

/-- A look-up by an id that is known passes over further elements. -/
theorem byId_eq {α : Type} {idOf : α → Id} {xs ys : List α}
    (h : xs.filter (fun x => m.knows (idOf x)) = ys) (hid : id.isGiven = true → m.knows id = true) :
    (if id.isGiven then findLast? (fun x => idOf x == id) xs else none) =
      if id.isGiven then findLast? (fun x => idOf x == id) ys else none := by
  split
  · next hg =>
    rw [← h, findLast?_filter_of]
    intro x _ hx
    rw [eq_of_beq hx, hid hg]
  · rfl

theorem objectById (h : m.ExtendedBy m') (hid : id.isGiven = true → m.knows id = true) :
    m'.objectById id = m.objectById id := byId_eq h.objects hid

theorem entityById (h : m.ExtendedBy m') (hid : id.isGiven = true → m.knows id = true) :
    m'.entityById id = m.entityById id := by
  unfold Model.entityById
  rw [h.objectById hid]

theorem factTypeById (h : m.ExtendedBy m') (hid : m.knows id = true) :
    m'.factTypeById id = m.factTypeById id := byId_eq h.factTypes fun _ => hid

theorem uniquenessById (h : m.ExtendedBy m') (hid : id.isGiven = true → m.knows id = true) :
    m'.uniquenessById id = m.uniquenessById id := byId_eq h.uniquenessConstraints hid

theorem mandatoryById (h : m.ExtendedBy m') (hid : m.knows id = true) :
    m'.mandatoryById id = m.mandatoryById id := byId_eq h.mandatoryConstraints fun _ => hid

theorem dataTypeById (h : m.ExtendedBy m') (hid : id.isGiven = true → m.knows id = true) :
    m'.dataTypeById id = m.dataTypeById id := byId_eq h.dataTypes hid

theorem constraintById (h : m.ExtendedBy m') (hid : m.knows id = true) :
    m'.constraintById id = m.constraintById id := by
  unfold Model.constraintById
  rw [← h.uniquenessConstraints, ← h.mandatoryConstraints, findLast?_filter_of, findLast?_filter_of]
  · intro c _ hc
    rw [eq_of_beq hc, hid]
  · intro u _ hu
    rw [eq_of_beq hu, hid]

theorem loneRoleOf (h : m.ExtendedBy m') (hid : m.knows id = true) :
    m'.loneRoleOf id = m.loneRoleOf id := by
  unfold Model.loneRoleOf
  rw [h.constraintById hid]

/-! ## Roles and their players -/

theorem roleById (h : m.ExtendedBy m') (hid : m.knows id = true) :
    m'.roleById id = m.roleById id := by
  unfold Model.roleById
  rw [List.find?_flatMap, List.find?_flatMap, ← h.factTypes, findSome?_filter_of]
  intro f hf hnew
  rw [List.find?_eq_none]
  intro r hr hrid
  exact ne_of_knows hid (h.roles f hf hnew r hr) (eq_of_beq hrid)

theorem factTypeWithRole (h : m.ExtendedBy m') (hid : m.knows id = true) :
    m'.factTypeWithRole id = m.factTypeWithRole id := by
  unfold Model.factTypeWithRole
  rw [← h.factTypes, find?_filter_of]
  intro f hf hrole
  by_contra hnew
  obtain ⟨r, hr, hrid⟩ := List.mem_map.mp (List.contains_iff_mem.mp hrole)
  exact ne_of_knows hid (h.roles f hf (by simpa using hnew) r hr) hrid

theorem listedPlayer (h : m.ExtendedBy m') (hid : m.knows id = true) :
    m'.listedPlayer id = m.listedPlayer id := by
  unfold Model.listedPlayer
  rw [← h.objects, find?_filter_of]
  intro o ho hrole
  by_contra hnew
  have hplayed := List.contains_iff_mem.mp hrole
  exact ne_of_knows hid (h.playedRoles o ho (by simpa using hnew) id hplayed) rfl

theorem playerId (h : m.ExtendedBy m') (hid : m.knows id = true) :
    m'.playerId id = m.playerId id := by
  unfold Model.playerId
  rw [h.roleById hid, h.listedPlayer hid]

theorem rolePlayer (h : m.ExtendedBy m') (hid : m.knows id = true) :
    m'.rolePlayer id = m.rolePlayer id := by
  unfold Model.rolePlayer
  rw [h.playerId hid, h.objectById knows_playerId]

theorem dataTypeOfPlayer (h : m.ExtendedBy m') (hid : m.knows id = true) :
    m'.dataTypeOfPlayer id = m.dataTypeOfPlayer id := by
  unfold Model.dataTypeOfPlayer
  rw [h.rolePlayer hid]
  cases ho : m.rolePlayer id with
  | none => rfl
  | some o =>
    have hmem := (objectById_eq_some ho).2.1
    have hdata : m'.dataTypeById o.dataType = m.dataTypeById o.dataType :=
      h.dataTypeById fun hg => knows_of_object hmem (by
        simp [ObjectType.mentions, mem_references hg])
    simp only [hdata]

/-! ## What a constraint identifies -/

theorem identifiedId (h : m.ExtendedBy m') (hid : m.knows id = true) :
    m'.identifiedId id = m.identifiedId id := by
  unfold Model.identifiedId
  rw [← h.objects, ← h.uniquenessConstraints, find?_filter_of, find?_filter_of]
  · intro u _ hu
    rw [eq_of_beq (Bool.and_eq_true_iff.mp hu).2, hid]
  · intro o ho hp
    by_contra hnew
    simp only [Bool.and_eq_true, beq_iff_eq] at hp
    exact ne_of_knows hid (h.identifiers o ho (by simpa using hnew) hp.1.2) hp.2

theorem entityIdentifiedBy (h : m.ExtendedBy m') (hid : m.knows id = true) :
    m'.entityIdentifiedBy id = m.entityIdentifiedBy id := by
  unfold Model.entityIdentifiedBy
  rw [h.identifiedId hid, h.entityById knows_identifiedId]

theorem identifyingFactType (h : m.ExtendedBy m') {e : ObjectType} (he : e ∈ m.objects) :
    m'.identifyingFactType e = m.identifyingFactType e := by
  have hknown : e.preferredIdentifier.isGiven = true → m.knows e.preferredIdentifier = true :=
    fun hg => knows_of_object he (by simp [ObjectType.mentions, mem_references hg])
  unfold Model.identifyingFactType
  rw [h.uniquenessById hknown]
  cases hu : m.uniquenessById e.preferredIdentifier with
  | none => rfl
  | some u =>
    have hmem := (uniquenessById_eq_some hu).2.1
    simp only [Option.map_some]
    split
    · next role hrole =>
      have hspan : u.roleIds = [role] := by simpa using hrole
      exact h.factTypeWithRole (knows_of_uniqueness hmem (by
        simp [UniquenessConstraint.mentions, hspan]))
    · rfl

/-! ## Constraints of a fact type -/

theorem uniquenessConstraintsOf (h : m.ExtendedBy m') {f : FactType} (hf : f ∈ m.factTypes) :
    m'.uniquenessConstraintsOf f = m.uniquenessConstraintsOf f :=
  List.filterMap_congr fun u hu => h.uniquenessById fun _ =>
    knows_of_factType hf (by simp [FactType.mentions, hu])

theorem mandatoryConstraintsOf (h : m.ExtendedBy m') {f : FactType} (hf : f ∈ m.factTypes) :
    m'.mandatoryConstraintsOf f = m.mandatoryConstraintsOf f :=
  List.filterMap_congr fun c hc => h.mandatoryById
    (knows_of_factType hf (by simp [FactType.mentions, hc]))

/-! ## Subtypes -/

theorem superTypes (h : m.ExtendedBy m') {e : ObjectType} (he : m.knows e.id = true) :
    m'.superTypes e = m.superTypes e := by
  have hold : ∀ s ∈ m.subtypeFacts, m'.entityById s.supertypeId = m.entityById s.supertypeId :=
    fun s hs => h.entityById fun _ => knows_of_subtypeFact hs (by simp [SubtypeFact.mentions])
  have hnew : ∀ s ∈ m'.subtypeFacts, m.knows s.id = false →
      (if s.subtypeId == e.id then m'.entityById s.supertypeId else none) = none := by
    intro s hs hid
    rw [if_neg]
    intro heq
    exact ne_of_knows he (h.subtypes s hs hid) (eq_of_beq heq)
  calc m'.superTypes e
      = m.subtypeFacts.filterMap fun s =>
          if s.subtypeId == e.id then m'.entityById s.supertypeId else none := by
        rw [← h.subtypeFacts, filterMap_filter_of hnew]
        rfl
    _ = m.superTypes e := List.filterMap_congr fun s hs => by rw [hold s hs]

/-- The subtypes that an extension adds are unknown. -/
theorem filter_subTypes (h : m.ExtendedBy m') (e : ObjectType) :
    (m'.subTypes e).filter (fun s => m.knows s.id) = m.subTypes e := by
  have hold : ∀ s ∈ m.subtypeFacts,
      (if s.supertypeId == e.id then m'.entityById s.subtypeId else none).filter
        (fun t => m.knows t.id) =
      if s.supertypeId == e.id then m.entityById s.subtypeId else none := by
    intro s hs
    have hknown : m.knows s.subtypeId = true :=
      knows_of_subtypeFact hs (by simp [SubtypeFact.mentions])
    rw [h.entityById fun _ => hknown]
    split
    · cases ht : m.entityById s.subtypeId with
      | none => rfl
      | some t => exact Option.filter_some_pos (by rw [id_of_entityById ht, hknown])
    · rfl
  have hnew : ∀ s ∈ m'.subtypeFacts, m.knows s.id = false →
      (if s.supertypeId == e.id then m'.entityById s.subtypeId else none).filter
        (fun t => m.knows t.id) = none := by
    intro s hs hid
    rw [Option.filter_eq_none_iff]
    intro t ht
    split at ht
    · rw [id_of_entityById ht, h.subtypes s hs hid]
      exact Bool.false_ne_true
    · cases ht
  unfold Model.subTypes
  rw [List.filter_filterMap, ← filterMap_filter_of hnew, h.subtypeFacts]
  exact List.filterMap_congr hold

/-! ## Diagrams -/

theorem entityByName (h : m.ExtendedBy m') {d : Diagram} (hd : d ∈ m.diagrams) {token : String}
    (ht : conceptToken d.name = some token) : m'.entityByName token = m.entityByName token := by
  unfold Model.entityByName
  rw [← h.objects, find?_filter_of]
  intro o ho hp
  by_contra hnew
  simp only [Bool.and_eq_true, beq_iff_eq] at hp
  exact h.names o ho (by simpa using hnew) hp.1 d hd (hp.2 ▸ ht)

theorem resolveConcept (h : m.ExtendedBy m') {d : Diagram} (hd : d ∈ m.diagrams) :
    m'.resolveConcept d = m.resolveConcept d := by
  unfold Model.resolveConcept
  cases ht : conceptToken d.name with
  | none => rfl
  | some token => simp only [h.entityByName hd ht]

theorem factTypesInDiagram (h : m.ExtendedBy m') {d : Diagram} (hd : d ∈ m.diagrams) :
    m'.factTypesInDiagram d = m.factTypesInDiagram d := by
  have hrefs : d.factTypeRefs.filterMap m'.factTypeById = d.factTypeRefs.filterMap m.factTypeById :=
    List.filterMap_congr fun ref href => h.factTypeById
      (knows_of_diagram hd (by simp [Diagram.mentions, href]))
  unfold Model.factTypesInDiagram
  rw [hrefs]

/-! ## The order of the document -/

/-- A model that is put in order mentions what it mentioned. -/
theorem knows_sorted (m : Model) (id : Id) : m.sorted.knows id = m.knows id := by
  rw [Bool.eq_iff_iff, knows_iff, knows_iff]
  simp only [Model.sorted, mem_inOrder]

/-- Further elements may have any positions among the elements that are put in order. -/
theorem sorted (h : m.ExtendedBy m') : m.sorted.ExtendedBy m'.sorted := by
  have hpruned {α : Type} {idOf : α → Id} {xs ys : List α} (position : α → Int)
      (hxs : xs.filter (fun x => m.knows (idOf x)) = ys) :
      (inOrder position xs).filter (fun x => m.sorted.knows (idOf x)) = inOrder position ys := by
    simp only [knows_sorted]
    rw [filter_inOrder, hxs]
  constructor
  case objects => exact hpruned _ h.objects
  case factTypes => exact hpruned _ h.factTypes
  case subtypeFacts => exact hpruned _ h.subtypeFacts
  case uniquenessConstraints => exact hpruned _ h.uniquenessConstraints
  case mandatoryConstraints => exact hpruned _ h.mandatoryConstraints
  case dataTypes => exact hpruned _ h.dataTypes
  case diagrams => exact congrArg (inOrder Diagram.order) h.diagrams
  all_goals
    simp only [knows_sorted]
    simp only [Model.sorted, mem_inOrder]
  case roles => exact h.roles
  case playedRoles => exact h.playedRoles
  case identifiers => exact h.identifiers
  case subtypes => exact h.subtypes
  case names => exact h.names

end ExtendedBy

end Model

end RoleSchema
