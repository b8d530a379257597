import RoleSchema.Model.Basic

/-!
# Questions to a model

Every question is a function of the elements in document order. Where ids are repeated, a look-up
by id finds the last element that bears it, while look-ups by name, by role and by identifying
constraint find the first.
-/

namespace RoleSchema

/-- The last element that satisfies a test. -/
def findLast? {α : Type} (p : α → Bool) (xs : List α) : Option α := xs.reverse.find? p

namespace Model

variable (m : Model)

/-! ## By id and by name -/

/-- The object type with an id. -/
def objectById (id : Id) : Option ObjectType :=
  if id.isGiven then findLast? (fun o => o.id == id) m.objects else none

/-- The entity type with an id. -/
def entityById (id : Id) : Option ObjectType :=
  (m.objectById id).filter ObjectType.isEntity

/-- The first entity type with a name. -/
def entityByName (name : String) : Option ObjectType :=
  m.objects.find? fun o => o.isEntity && o.name == name

/-- The fact type with an id. -/
def factTypeById (id : Id) : Option FactType :=
  if id.isGiven then findLast? (fun f => f.id == id) m.factTypes else none

/-- The uniqueness constraint with an id. -/
def uniquenessById (id : Id) : Option UniquenessConstraint :=
  if id.isGiven then findLast? (fun u => u.id == id) m.uniquenessConstraints else none

/-- The mandatory constraint with an id. -/
def mandatoryById (id : Id) : Option MandatoryConstraint :=
  if id.isGiven then findLast? (fun c => c.id == id) m.mandatoryConstraints else none

/-- The uniqueness constraint with an id or else the mandatory constraint with it, also where the
id is missing or empty. -/
def constraintById (id : Id) : Option Constraint :=
  match findLast? (fun u => u.id == id) m.uniquenessConstraints with
  | some u => some (.uniqueness u)
  | none => (findLast? (fun c => c.id == id) m.mandatoryConstraints).map .mandatory

/-- The data type with an id. -/
def dataTypeById (id : Id) : Option DataType :=
  if id.isGiven then findLast? (fun d => d.id == id) m.dataTypes else none

/-! ## Roles and their players -/

/-- The first role with an id among all fact types. -/
def roleById (id : Id) : Option Role :=
  (m.factTypes.flatMap FactType.roles).find? fun r => r.id == id

/-- The first fact type that has a role. -/
def factTypeWithRole (role : Id) : Option FactType :=
  m.factTypes.find? fun f => f.roleIds.contains role

/-- The first object type that lists a role as played. -/
def listedPlayer (role : Id) : Option ObjectType :=
  m.objects.find? fun o => o.playedRoles.contains role

/-- The id of the player of a role: the one that the role names, or else the first object type that
lists the role. -/
def playerId (role : Id) : Id :=
  match (m.roleById role).filter fun r => r.playerId.isGiven with
  | some r => r.playerId
  | none => (m.listedPlayer role).bind ObjectType.id

/-- The object type that plays a role. -/
def rolePlayer (role : Id) : Option ObjectType := m.objectById (m.playerId role)

/-- The entity type that plays a role. -/
def entityThatPlays (role : Id) : Option ObjectType :=
  (m.rolePlayer role).filter ObjectType.isEntity

/-- The data type of the value type that plays a role. -/
def dataTypeOfPlayer (role : Id) : Option DataType :=
  match m.rolePlayer role with
  | some o => if o.isEntity then none else m.dataTypeById o.dataType
  | none => none

/-- Whether a role only says that a unary fact holds. -/
def isImplicitBoolean (role : Id) : Bool :=
  match m.rolePlayer role with
  | some o => o.isImplicitBoolean
  | none => false

/-! ## Subtypes -/

/-- The direct supertypes of an entity type, one for each subtype fact. -/
def superTypes (e : ObjectType) : List ObjectType :=
  m.subtypeFacts.filterMap fun s => if s.subtypeId == e.id then m.entityById s.supertypeId else none

/-- The direct subtypes of an entity type, one for each subtype fact. -/
def subTypes (e : ObjectType) : List ObjectType :=
  m.subtypeFacts.filterMap fun s => if s.supertypeId == e.id then m.entityById s.subtypeId else none

/-- Whether an entity type has no supertype. -/
def isTopLevel (e : ObjectType) : Bool := (m.superTypes e).isEmpty

/-! ## Diagrams -/

/-- The fact types that a diagram refers to, each once, in the order of the first reference. -/
def factTypesInDiagram (d : Diagram) : List FactType :=
  (d.factTypeRefs.filterMap m.factTypeById).eraseDups

/-! ## Constraints -/

/-- The uniqueness constraints that a fact type lists. -/
def uniquenessConstraintsOf (f : FactType) : List UniquenessConstraint :=
  f.uniquenessIds.filterMap m.uniquenessById

/-- The mandatory constraints that a fact type lists. -/
def mandatoryConstraintsOf (f : FactType) : List MandatoryConstraint :=
  f.mandatoryIds.filterMap m.mandatoryById

/-- The id of the entity type that a uniqueness constraint identifies: the first entity type that
names the constraint, or else the one that the first such constraint names. -/
def identifiedId (uniqueness : Id) : Id :=
  match m.objects.find? fun o =>
      o.isEntity && o.preferredIdentifier.isGiven && o.preferredIdentifier == uniqueness with
  | some o => o.id
  | none =>
    (m.uniquenessConstraints.find? fun u =>
      u.preferredIdentifierFor.isGiven && u.id == uniqueness).bind
        UniquenessConstraint.preferredIdentifierFor

/-- The entity type that a uniqueness constraint identifies. -/
def entityIdentifiedBy (uniqueness : Id) : Option ObjectType :=
  m.entityById (m.identifiedId uniqueness)

/-- The role that a constraint spans, if it spans exactly one. -/
def loneRoleOf (id : Id) : Id :=
  match (m.constraintById id).map Constraint.roleIds with
  | some [role] => role
  | _ => none

/-- The fact type of the role that identifies an entity type; none where the identifier spans
several roles. -/
def identifyingFactType (e : ObjectType) : Option FactType :=
  match (m.uniquenessById e.preferredIdentifier).map UniquenessConstraint.roleIds with
  | some [role] => m.factTypeWithRole role
  | _ => none

/-- The first uniqueness constraint of a fact type that does not span a role. -/
def uniquenessExcludingRole (role : Id) (f : FactType) : Option UniquenessConstraint :=
  (m.uniquenessConstraintsOf f).find? fun u => !u.spans role

end Model

/-- Whether an id is among the subjects of a diagram. -/
def Diagram.draws (d : Diagram) (id : Id) : Bool := d.subjectRefs.contains id

/-- The roles of a fact type that a uniqueness constraint does not span. -/
def FactType.rolesExcludedBy (f : FactType) (u : UniquenessConstraint) : List Id :=
  f.roleIds.filter fun r => !u.spans r

/-! ## Sizes -/

/-- How many elements of each kind a model has. -/
structure Summary where
  entityTypes : Nat
  valueTypes : Nat
  factTypes : Nat
  subtypeFacts : Nat
  uniquenessConstraints : Nat
  mandatoryConstraints : Nat
  diagrams : Nat
  deriving DecidableEq, Repr

/-- The sizes with their names. -/
def Summary.entries (s : Summary) : List (String × Nat) :=
  [("entity_types", s.entityTypes), ("value_types", s.valueTypes), ("fact_types", s.factTypes),
    ("subtype_facts", s.subtypeFacts), ("uniqueness_constraints", s.uniquenessConstraints),
    ("mandatory_constraints", s.mandatoryConstraints), ("diagrams", s.diagrams)]

/-- The sizes in braces, each after its name. -/
def Summary.text (s : Summary) : String :=
  "\x7b" ++ ", ".intercalate (s.entries.map fun e => "'" ++ e.1 ++ "': " ++ toString e.2) ++ "\x7d"

/-- How many elements of each kind a model has. -/
def Model.summary (m : Model) : Summary where
  entityTypes := m.objects.countP ObjectType.isEntity
  valueTypes := m.objects.countP fun o => !o.isEntity
  factTypes := m.factTypes.length
  subtypeFacts := m.subtypeFacts.length
  uniquenessConstraints := m.uniquenessConstraints.length
  mandatoryConstraints := m.mandatoryConstraints.length
  diagrams := m.diagrams.length

end RoleSchema
