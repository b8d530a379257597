/-!
# Object-role models

The elements of an object-role model: object types, fact types with their roles, subtype facts,
uniqueness and mandatory constraints, data types and diagrams. An element is referred to by its id;
an element may lack an id and a reference may lead nowhere, so both are optional texts and no
reference is assumed to resolve.

A `Model` holds each kind of element in the order of the document.
-/

namespace RoleSchema

/-- The id of an element, or a reference to one; `none` where none is given. -/
abbrev Id := Option String

namespace Id

/-- An id that is given and not empty: only such an id is looked up. -/
def isGiven : Id → Bool
  | some s => s ≠ ""
  | none => false

/-- An id as it appears in messages. -/
def text : Id → String
  | some s => s
  | none => "None"

end Id

/-- Entity types have instances of their own; the instances of value types are plain values. -/
inductive ObjectKind where
  | entity
  | value
  deriving DecidableEq, Repr

/-- A data type that a model declares for its value types. -/
structure DataType where
  id : Id
  /-- The name of the data type, such as `VariableLengthTextDataType`. -/
  kind : String
  order : Int := 0
  deriving DecidableEq, Repr

/-- An entity type or a value type. -/
structure ObjectType where
  id : Id
  name : String
  kind : ObjectKind
  order : Int := 0
  /-- The label of the identifier of an entity type; empty where there is none. -/
  referenceMode : String := ""
  /-- The uniqueness constraint that identifies an entity type. -/
  preferredIdentifier : Id := none
  /-- The data type of a value type. -/
  dataType : Id := none
  /-- Whether the value type only says that a unary fact holds. -/
  isImplicitBoolean : Bool := false
  playedRoles : List Id := []
  deriving DecidableEq, Repr

/-- Whether an object type is an entity type. -/
def ObjectType.isEntity (o : ObjectType) : Bool := o.kind == .entity

/-- A part that an object type plays in a fact type. -/
structure Role where
  id : Id
  factTypeId : Id
  playerId : Id := none
  name : String := ""
  deriving DecidableEq, Repr

/-- A fact type with its roles and the constraints on them. -/
structure FactType where
  id : Id
  name : String
  roles : List Role := []
  uniquenessIds : List Id := []
  mandatoryIds : List Id := []
  order : Int := 0
  deriving DecidableEq, Repr

namespace FactType

/-- The ids of the roles. -/
def roleIds (f : FactType) : List Id := f.roles.map Role.id

/-- Whether some role has a name. -/
def hasNamedRoles (f : FactType) : Bool := f.roles.any fun r => r.name ≠ ""

/-- The first role with an id. -/
def role? (f : FactType) (id : Id) : Option Role := f.roles.find? fun r => r.id == id

end FactType

/-- A combination of values occurs at most once at the roles that a uniqueness constraint spans. -/
structure UniquenessConstraint where
  id : Id
  roleIds : List Id
  name : String := ""
  /-- The entity type that the constraint identifies. -/
  preferredIdentifierFor : Id := none
  order : Int := 0
  deriving DecidableEq, Repr

/-- Whether a uniqueness constraint spans a role. -/
def UniquenessConstraint.spans (u : UniquenessConstraint) (role : Id) : Bool :=
  u.roleIds.contains role

/-- Every instance of the player occurs at one of the roles of a mandatory constraint. -/
structure MandatoryConstraint where
  id : Id
  roleIds : List Id
  name : String := ""
  order : Int := 0
  deriving DecidableEq, Repr

/-- A link from an entity type to a more general one. -/
structure SubtypeFact where
  id : Id
  subtypeId : Id
  supertypeId : Id
  name : String := ""
  subtypeRoleId : Id := none
  supertypeRoleId : Id := none
  order : Int := 0
  deriving DecidableEq, Repr

/-- A diagram and what is drawn on it. -/
structure Diagram where
  id : Id
  name : String
  /-- What the shapes stand for. -/
  subjectRefs : List Id := []
  /-- What the shapes of fact types stand for. -/
  factTypeRefs : List Id := []
  order : Int := 0
  deriving DecidableEq, Repr

/-- A uniqueness or a mandatory constraint. -/
inductive Constraint where
  | uniqueness (u : UniquenessConstraint)
  | mandatory (m : MandatoryConstraint)
  deriving DecidableEq, Repr

/-- The roles that a constraint spans. -/
def Constraint.roleIds : Constraint → List Id
  | .uniqueness u => u.roleIds
  | .mandatory m => m.roleIds

/-- An object-role model. -/
structure Model where
  name : String := ""
  objects : List ObjectType := []
  factTypes : List FactType := []
  subtypeFacts : List SubtypeFact := []
  uniquenessConstraints : List UniquenessConstraint := []
  mandatoryConstraints : List MandatoryConstraint := []
  dataTypes : List DataType := []
  diagrams : List Diagram := []
  deriving DecidableEq, Repr

/-- The elements by their positions, elements of one position in their given order. -/
def inOrder {α : Type} (position : α → Int) (elements : List α) : List α :=
  elements.mergeSort fun a b => position a ≤ position b

/-- The model with every kind of element in the order of the document. -/
def Model.sorted (m : Model) : Model where
  name := m.name
  objects := inOrder ObjectType.order m.objects
  factTypes := inOrder FactType.order m.factTypes
  subtypeFacts := inOrder SubtypeFact.order m.subtypeFacts
  uniquenessConstraints := inOrder UniquenessConstraint.order m.uniquenessConstraints
  mandatoryConstraints := inOrder MandatoryConstraint.order m.mandatoryConstraints
  dataTypes := inOrder DataType.order m.dataTypes
  diagrams := inOrder Diagram.order m.diagrams

end RoleSchema
