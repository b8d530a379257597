import RoleSchema.Naming
import RoleSchema.Rel.Text
import RoleSchema.Report.Basic
import RoleSchema.Text.Template

/-!
# Reference modes

A fact type that identifies the instances of an entity type has two roles, one played by the entity
type and one by its identifier, and a uniqueness constraint over each. `Model.matchReferenceMode`
recognises such a fact type, and `Model.referenceModeRelations` gives the two relations that
come of it: from the entity type to the identifier and back.
-/

namespace RoleSchema

open RoleSchema.Rel (Predicate)

/-- Why a part of a schema cannot be formed. -/
inductive SchemaFault where
  | naming (fault : NamingFault)
  | emission (fault : Rel.EmissionFault)
  /-- A fact type lists one uniqueness constraint twice where two different ones are needed. -/
  | repeatedUniqueness
  /-- The identifying constraint spans a role of another fact type. -/
  | identifierElsewhere
  /-- A subset clause is asked for a relation without a key. -/
  | noKey
  /-- The template of file names cannot be filled. -/
  | template (fault : Text.TemplateFault)
  deriving DecidableEq, Repr

/-- The wording of a fault. -/
def SchemaFault.message : SchemaFault → String
  | .naming f => f.message
  | .emission f => f.message
  | .repeatedUniqueness => ""
  | .identifierElsewhere => "'NoneType' object has no attribute 'name'"
  | .noKey => "tuple index out of range"
  | .template f => f.message

/-- The parts of a fact type that identifies an entity type. -/
structure ReferenceMode where
  entity : ObjectType
  entityRole : Role
  /-- The role of the identifier, unless the identifying constraint spans a role elsewhere. -/
  identifierRole : Option Role
  /-- The constraint over the role of the entity type. -/
  entityUniqueness : Id
  /-- The constraint over the role of the identifier. -/
  identifierUniqueness : Id
  deriving DecidableEq, Repr

/-- The two relations of a reference mode. -/
structure ReferenceModeRelations where
  /-- From the entity type to its identifier. -/
  forward : Predicate
  /-- From the identifier to the entity type. -/
  inverse : Predicate
  deriving DecidableEq, Repr

namespace Model

variable (m : Model)

/-- Whether a role is the role of an entity type in a reference mode: it is not the identifier, the
entity type plays it, the other uniqueness constraint spans it alone, and so does a mandatory
constraint. -/
def matchEntityRole (f : FactType) (uniqueness : Id) (entity : ObjectType) (identifier : Id)
    (role : Role) : Except SchemaFault (Option ReferenceMode) :=
  if role.id == identifier then .ok none
  else
    match (m.entityThatPlays role.id).filter fun player => player.id == entity.id with
    | none => .ok none
    | some _ =>
      match f.uniquenessIds.find? fun u => u != uniqueness with
      | none => .error .repeatedUniqueness
      | some other =>
        let isMandatory := f.mandatoryIds.any fun c => m.loneRoleOf c == role.id
        if m.loneRoleOf other == role.id && isMandatory then
          .ok (some ⟨entity, role, f.role? identifier, other, uniqueness⟩)
        else .ok none

/-- The reference mode in which a uniqueness constraint is the identifying one. -/
def matchIdentifier (f : FactType) (uniqueness : Id) :
    Except SchemaFault (Option ReferenceMode) :=
  match m.entityIdentifiedBy uniqueness, m.loneRoleOf uniqueness with
  | some entity, some identifier =>
    f.roles.findSomeM? (m.matchEntityRole f uniqueness entity (some identifier))
  | _, _ => .ok none

/-- The reference mode of a fact type with two roles and two uniqueness constraints. -/
def matchReferenceMode (f : FactType) : Except SchemaFault (Option ReferenceMode) :=
  if f.roles.length = 2 ∧ f.uniquenessIds.length = 2 then
    f.uniquenessIds.findSomeM? (m.matchIdentifier f)
  else .ok none

/-- What the identifier is called in generated names: the reference mode, or else the name of the
player of the identifier's role. -/
def identifierLabel (entity : ObjectType) (identifier : Role) : Except NamingFault String :=
  if entity.modeToken ≠ "" then .ok entity.modeToken else m.playerName identifier.id

/-- The relations of a reference mode. The name of a role is the name of the relation whose value it
is; a nameless role gives a generated name. -/
def referenceModeRelations (r : ReferenceMode) :
    Except SchemaFault ReferenceModeRelations := do
  let entity ← (snakeCase r.entity.name).mapError .naming
  match r.identifierRole with
  | none => .error .identifierElsewhere
  | some identifier =>
    let forward ←
      if identifier.name ≠ "" then .ok identifier.name
      else
        ((m.identifierLabel r.entity identifier).mapError .naming).map fun label =>
          entity ++ "_" ++ label
    let inverse ←
      if r.entityRole.name ≠ "" then .ok r.entityRole.name
      else
        ((m.identifierLabel r.entity identifier).mapError .naming).map fun label =>
          label ++ "_to_" ++ entity
    .ok
      { forward := ⟨forward, r.entityUniqueness, [r.entityRole.id], [identifier.id]⟩
        inverse := ⟨inverse, r.identifierUniqueness, [identifier.id], [r.entityRole.id]⟩ }

end Model

end RoleSchema
