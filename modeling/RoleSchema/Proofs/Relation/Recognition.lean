import RoleSchema.Proofs.Relation.ReferenceMode

/-!
# Which reference modes are recognised

An identifying constraint names the entity type that it identifies, and entity types name the
constraint that identifies them, a subtype often the one of its supertype. Only the first of all
these is taken, entity types before constraints, so that a subtype in front of the entity type hides
the reference mode.

* `Model.matchReferenceMode_iff`: the exact condition.
* `Persons.match_fails_behind_subtype`: two entity types that are found in one order only.
-/

namespace RoleSchema

namespace Model

/-- The ids of the entity types that a uniqueness constraint is said to identify: those of the
entity types that name it, then those that the constraints of this id name. -/
def claimants (m : Model) (uniqueness : Id) : List Id :=
  (m.objects.filter fun o =>
      o.isEntity && o.preferredIdentifier.isGiven && o.preferredIdentifier == uniqueness).map
    ObjectType.id ++
  (m.uniquenessConstraints.filter fun u =>
      u.preferredIdentifierFor.isGiven && u.id == uniqueness).map
    UniquenessConstraint.preferredIdentifierFor

theorem identifiedId_eq (m : Model) (uniqueness : Id) :
    m.identifiedId uniqueness = (m.claimants uniqueness).head?.join := by
  unfold identifiedId claimants
  rw [List.head?_append, List.head?_map, List.head?_map, List.head?_filter, List.head?_filter]
  split
  · next o ho => simp [ho]
  · next ho => simp [ho, ← Option.bind_id_eq_join, Option.bind_map]

/-- The fact type `f` states that `entity` is identified by the role `i`: it has the roles `e` and
`i`, a constraint `u` over `i` that names `entity`, and a constraint `w` over `e` that identifies
nothing. -/
structure StatesMode (m : Model) (f : FactType) (entity : ObjectType) (e i : Role)
    (u w : UniquenessConstraint) : Prop where
  roles : f.roles = [e, i] ∨ f.roles = [i, e]
  role_ne : e.id ≠ i.id
  constraints : f.uniquenessIds = [u.id, w.id] ∨ f.uniquenessIds = [w.id, u.id]
  identifier : m.uniquenessById u.id = some u
  identifier_spans : u.roleIds = [i.id]
  identifier_for : u.preferredIdentifierFor = entity.id
  other : m.uniquenessById w.id = some w
  other_spans : w.roleIds = [e.id]
  other_for : m.claimants w.id = []
  player : m.entityThatPlays e.id = some entity

end Model

namespace Model.StatesMode

variable {m : Model} {f : FactType} {entity : ObjectType} {e i : Role}
  {u w : UniquenessConstraint}

theorem loneRoleOf_identifier (h : m.StatesMode f entity e i u w) : m.loneRoleOf u.id = i.id :=
  loneRoleOf_of_roleIds (constraintById_of_uniquenessById h.identifier) h.identifier_spans

theorem loneRoleOf_other (h : m.StatesMode f entity e i u w) : m.loneRoleOf w.id = e.id :=
  loneRoleOf_of_roleIds (constraintById_of_uniquenessById h.other) h.other_spans

theorem constraint_ne (h : m.StatesMode f entity e i u w) : w.id ≠ u.id := by
  intro hid
  have hroles := h.loneRoleOf_other.symm.trans (hid ▸ h.loneRoleOf_identifier)
  exact h.role_ne hroles

theorem find_other (h : m.StatesMode f entity e i u w) :
    f.uniquenessIds.find? (fun v => v != u.id) = some w.id := by
  have hne := h.constraint_ne
  rcases h.constraints with hf | hf <;> simp [hf, hne]

theorem role_identifier (h : m.StatesMode f entity e i u w) : f.role? i.id = some i := by
  have hne := h.role_ne
  rcases h.roles with hf | hf <;> simp [FactType.role?, hf, hne]

/-- The entity type is found by its id. -/
theorem entityById_id (h : m.StatesMode f entity e i u w) :
    m.entityById entity.id = some entity := by
  obtain ⟨hplays, hentity⟩ := entityThatPlays_eq_some h.player
  obtain ⟨-, -, hid⟩ := objectById_eq_some hplays
  rw [hid]
  exact Option.filter_eq_some_iff.mpr ⟨hplays, hentity⟩

/-- The constraint identifies the entity type if that is the first to claim it, else another entity
type or none. -/
theorem entityIdentifiedBy_iff (h : m.StatesMode f entity e i u w) :
    (m.claimants u.id).head? = some entity.id ↔
      (m.entityIdentifiedBy u.id).map ObjectType.id = some entity.id := by
  obtain ⟨hplays, -⟩ := entityThatPlays_eq_some h.player
  obtain ⟨hgiven, -, hid⟩ := objectById_eq_some hplays
  unfold entityIdentifiedBy
  rw [identifiedId_eq]
  constructor
  · intro hc
    rw [hc, Option.join_some, h.entityById_id, Option.map_some]
  · intro hc
    obtain ⟨entity', he, hid'⟩ := Option.map_eq_some_iff.mp hc
    obtain ⟨ho, -⟩ := entityById_eq_some he
    obtain ⟨-, -, hjoin⟩ := objectById_eq_some ho
    rw [hid', hid] at hjoin
    rw [hid]
    cases hhead : (m.claimants u.id).head? with
    | none =>
      rw [hhead] at hjoin
      rw [hjoin] at hgiven
      cases hgiven
    | some id =>
      rw [hhead] at hjoin
      rw [hjoin]
      rfl

/-- The other constraint is no identifier. -/
theorem matchIdentifier_other (h : m.StatesMode f entity e i u w) :
    m.matchIdentifier f w.id = .ok none := by
  have hnone : m.entityIdentifiedBy w.id = none := by
    unfold entityIdentifiedBy
    rw [identifiedId_eq, h.other_for]
    rfl
  unfold matchIdentifier
  rw [hnone]

/-- With `found` for the entity type that the constraint identifies, the role `e` is recognised if
`found` is the entity type and a mandatory constraint is over `e` alone. -/
theorem findSomeM?_roles (h : m.StatesMode f entity e i u w) (found : ObjectType) :
    f.roles.findSomeM? (m.matchEntityRole f u.id found i.id) =
      .ok (if entity.id = found.id ∧ ∃ c ∈ f.mandatoryIds, m.loneRoleOf c = e.id then
        some ⟨found, e, some i, w.id, u.id⟩ else none) := by
  refine findSomeM?_of_pair h.roles ?_ ?_
  · rw [matchEntityRole_of_other h.find_other, h.player, h.role_identifier, h.loneRoleOf_other]
    simp [h.role_ne]
  · rw [matchEntityRole_of_other h.find_other, if_neg]
    rintro ⟨hne, -⟩
    exact hne rfl

theorem matchIdentifier_identifier (h : m.StatesMode f entity e i u w) :
    m.matchIdentifier f u.id =
      .ok (if i.id ≠ none ∧ (m.claimants u.id).head? = some entity.id ∧
          ∃ c ∈ f.mandatoryIds, m.loneRoleOf c = e.id then
        some ⟨entity, e, some i, w.id, u.id⟩ else none) := by
  have hroles := h.findSomeM?_roles
  unfold matchIdentifier
  simp only [h.loneRoleOf_identifier, h.entityIdentifiedBy_iff]
  cases hi : i.id with
  | none => simp
  | some identifier =>
    cases hfound : m.entityIdentifiedBy u.id with
    | none => simp
    | some found =>
      rw [hi] at hroles
      simp only [hroles]
      by_cases hid : found.id = entity.id
      · obtain ⟨ho, -⟩ := entityById_eq_some hfound
        obtain ⟨-, -, hid'⟩ := objectById_eq_some ho
        unfold entityIdentifiedBy at hfound
        rw [← hid', hid, h.entityById_id] at hfound
        obtain rfl := Option.some.inj hfound
        simp
      · have hid' : entity.id ≠ found.id := fun he => hid he.symm
        simp [hid, hid']

end Model.StatesMode

namespace Model

variable {m : Model} {f : FactType} {entity : ObjectType} {e i : Role}
  {u w : UniquenessConstraint}

/-- What is recognised in a fact type that states a reference mode. -/
theorem StatesMode.matchReferenceMode_eq (h : m.StatesMode f entity e i u w) :
    m.matchReferenceMode f =
      .ok (if i.id ≠ none ∧ (m.claimants u.id).head? = some entity.id ∧
          ∃ c ∈ f.mandatoryIds, m.loneRoleOf c = e.id then
        some ⟨entity, e, some i, w.id, u.id⟩ else none) := by
  have hlength : f.roles.length = 2 ∧ f.uniquenessIds.length = 2 := by
    constructor
    · rcases h.roles with hf | hf <;> rw [hf] <;> rfl
    · rcases h.constraints with hf | hf <;> rw [hf] <;> rfl
  unfold matchReferenceMode
  rw [if_pos hlength]
  exact findSomeM?_of_pair h.constraints h.matchIdentifier_identifier h.matchIdentifier_other

/-- **When a reference mode is recognised.** A fact type that states a reference mode is recognised
with all its parts exactly if the entity type is the first that the identifying constraint is said
to identify; otherwise nothing is recognised. The role of the identifier needs an id, and a
constraint that makes the other role mandatory has to be found under its id. -/
theorem matchReferenceMode_iff (h : m.StatesMode f entity e i u w) :
    (m.matchReferenceMode f = .ok (some ⟨entity, e, some i, w.id, u.id⟩) ↔
      i.id ≠ none ∧ (m.claimants u.id).head? = some entity.id ∧
        ∃ c ∈ f.mandatoryIds, m.loneRoleOf c = e.id) ∧
    (m.matchReferenceMode f = .ok (some ⟨entity, e, some i, w.id, u.id⟩) ∨
      m.matchReferenceMode f = .ok none) := by
  rw [h.matchReferenceMode_eq]
  split
  · next hc => simpa using hc
  · next hc => simpa using hc

end Model

/-! ## Persons and speakers -/

namespace Persons

def who : Role := { id := some "who", factTypeId := some "numbered", playerId := some "person" }

def what : Role := { id := some "what", factTypeId := some "numbered", playerId := some "number" }

/-- Every person has a number, and no number is that of two persons. -/
def numbered : FactType where
  id := some "numbered"
  name := "PersonHasPersonNumber"
  roles := [who, what]
  uniquenessIds := [some "one number", some "one person"]
  mandatoryIds := [some "all numbered"]

def onePerson : UniquenessConstraint :=
  { id := some "one person", roleIds := [some "what"], preferredIdentifierFor := some "person" }

def oneNumber : UniquenessConstraint := { id := some "one number", roleIds := [some "who"] }

def person : ObjectType :=
  { id := some "person", name := "Person", kind := .entity,
    preferredIdentifier := some "one person" }

/-- A subtype of persons, with the identifier of persons. -/
def speaker : ObjectType :=
  { id := some "speaker", name := "Speaker", kind := .entity,
    preferredIdentifier := some "one person" }

def number : ObjectType := { id := some "number", name := "PersonNumber", kind := .value }

/-- The model with its object types in a given order. -/
def model (objects : List ObjectType) : Model where
  objects := objects
  factTypes := [numbered]
  subtypeFacts :=
    [{ id := some "special", subtypeId := some "speaker", supertypeId := some "person" }]
  uniquenessConstraints := [oneNumber, onePerson]
  mandatoryConstraints := [{ id := some "all numbered", roleIds := [some "who"] }]

/-- The numbers of persons are a reference mode, wherever the object types stand. -/
theorem statesMode (objects : List ObjectType)
    (hplayer : (model objects).entityThatPlays who.id = some person)
    (hother : (model objects).claimants oneNumber.id = []) :
    (model objects).StatesMode numbered person who what onePerson oneNumber where
  roles := Or.inl rfl
  role_ne := by decide
  constraints := Or.inr rfl
  identifier := rfl
  identifier_spans := rfl
  identifier_for := rfl
  other := rfl
  other_spans := rfl
  other_for := hother
  player := hplayer

/-- With persons in front of speakers, the numbers of persons are recognised. -/
theorem match_before_subtype :
    (model [person, speaker, number]).StatesMode numbered person who what onePerson oneNumber ∧
      ((model [person, speaker, number]).matchReferenceMode numbered =
          .ok (some ⟨person, who, some what, oneNumber.id, onePerson.id⟩) ↔
        what.id ≠ none ∧
          ((model [person, speaker, number]).claimants onePerson.id).head? = some person.id ∧
          ∃ c ∈ numbered.mandatoryIds,
            (model [person, speaker, number]).loneRoleOf c = who.id) ∧
      (model [person, speaker, number]).matchReferenceMode numbered =
        .ok (some ⟨person, who, some what, oneNumber.id, onePerson.id⟩) := by
  have hstates := statesMode [person, speaker, number] rfl rfl
  have hiff := (Model.matchReferenceMode_iff hstates).1
  exact ⟨hstates, hiff, hiff.mpr (by decide)⟩

/-- With speakers in front of persons, nothing is recognised, though the same elements state the
same. -/
theorem match_fails_behind_subtype :
    (model [speaker, person, number]).StatesMode numbered person who what onePerson oneNumber ∧
      (∃ c ∈ (model [speaker, person, number]).mandatoryConstraintsOf numbered,
        c.roleIds = [who.id]) ∧
      [speaker, person, number].Perm [person, speaker, number] ∧
      (model [person, speaker, number]).matchReferenceMode numbered =
        .ok (some ⟨person, who, some what, oneNumber.id, onePerson.id⟩) ∧
      (model [speaker, person, number]).matchReferenceMode numbered = .ok none := by
  refine ⟨statesMode _ rfl rfl, by decide, .swap _ _ _, ?_, ?_⟩
  · rw [(statesMode [person, speaker, number] rfl rfl).matchReferenceMode_eq]
    rfl
  · rw [(statesMode [speaker, person, number] rfl rfl).matchReferenceMode_eq]
    rfl

end Persons

end RoleSchema
