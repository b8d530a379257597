import RoleSchema.Relation.ReferenceMode

/-!
# The relations of a fact type

The roles of a fact type have no order while the columns of a relation do: the roles that a
uniqueness constraint spans become the key, the remaining ones the value. If roles have names, each
named role becomes the value of a relation of that name; otherwise the fact type becomes one
relation that bears its name. A fact type whose relations are not determined is reported.
-/

namespace RoleSchema

open RoleSchema.Rel (Predicate)

/-! ## Findings -/

namespace Diagnostic

/-- No uniqueness constraint leaves out a named role, so that nothing can be its key. -/
def unkeyedNamedRole (f : FactType) (r : Role) : Diagnostic where
  severity := .warning
  code := "unkeyed-named-role"
  message := "Cannot generate relation for role with name " ++ r.name ++ " in fact type " ++
    f.name ++ " because model lacks a non-spanning UC that excludes this role."
  element := r.id

/-- Several uniqueness constraints and no named role: the key is not determined. -/
def ambiguousFactType (f : FactType) : Diagnostic where
  severity := .warning
  code := "ambiguous-fact-type"
  message := "Cannot generate relations for fact type '" ++ f.name ++
    "' because there is more than one UC and none of the roles are named."
  element := f.id

/-- No uniqueness constraint: there is no key. -/
def missingUniqueness (f : FactType) : Diagnostic where
  severity := .warning
  code := "missing-uniqueness"
  message := "Cannot generate relations for fact type '" ++ f.name ++
    "' because it has no uniqueness constraint."
  element := f.id

end Diagnostic

namespace Model

variable (m : Model)

/-! ## Relations -/

/-- The relation of a named role, or the finding that it has no key. A role of a fact type that
only says whether something holds is never keyed on its own, so that its lack is no finding. -/
def namedRoleRelation (f : FactType) (r : Role) : Reporting SchemaFault (List Predicate) :=
  match m.uniquenessExcludingRole r.id f with
  | some u => pure [⟨r.name, u.id, u.roleIds, [r.id]⟩]
  | none =>
    if f.roleIds.any m.isImplicitBoolean then pure []
    else do
      Reporting.find (.unkeyedNamedRole f r)
      pure []

/-- The relations that the names of roles ask for, in the order of the roles. -/
def userNamedRelations (f : FactType) : List Role → Reporting SchemaFault (List Predicate)
  | [] => pure []
  | r :: rest => do
    let first ← if r.name ≠ "" then m.namedRoleRelation f r else pure []
    let others ← userNamedRelations f rest
    pure (first ++ others)

/-- The relation that bears the name of the fact type; its key is the only uniqueness constraint. -/
def systemNamedRelations (f : FactType) : Reporting SchemaFault (List Predicate) :=
  match m.uniquenessConstraintsOf f with
  | [] => do
    Reporting.find (.missingUniqueness f)
    pure []
  | [u] => do
    let name ← Reporting.ofExcept ((snakeCase f.name).mapError .naming)
    pure [⟨name, u.id, u.roleIds, f.rolesExcludedBy u⟩]
  | _ => do
    Reporting.find (.ambiguousFactType f)
    pure []

/-- The relations of a fact type that is no reference mode. -/
def relationsFor (f : FactType) : Reporting SchemaFault (List Predicate) :=
  if f.hasNamedRoles then do
    Reporting.note .debug ("Fact type " ++ f.name ++ ": user-named relations")
    m.userNamedRelations f f.roles
  else do
    Reporting.note .debug ("Fact type " ++ f.name ++ ": system-named relation")
    m.systemNamedRelations f

end Model

end RoleSchema
