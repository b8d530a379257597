import RoleSchema.Model.Basic

/-!
# Rel

The part of the Rel language in which schemas are written: relations, formulas over them, and
clauses. A predicate is a relation with columns: the roles of its key, then those of its value.
Where a value of another sort stands in the place of a relation, a formula or a clause, the tree
records its sort as `misplaced`, and rendering reports it.
-/

namespace RoleSchema.Rel

/-- A relation derived from a fact type. -/
structure Predicate where
  name : String
  /-- The uniqueness constraint over the key. -/
  uniqueness : Id
  key : List Id
  value : List Id := []
  deriving DecidableEq, Repr

/-- The roles of the columns: those of the key, then those of the value. -/
def Predicate.roleIds (p : Predicate) : List Id := p.key ++ p.value

/-- A relation. -/
inductive Relation where
  /-- The set of instances of an entity type, or of the values of a primitive type. -/
  | type (name : String)
  | predicate (p : Predicate)
  | misplaced (sort : String)
  deriving DecidableEq, Repr

/-- A formula. -/
inductive Formula where
  /-- The arguments are in the relation. -/
  | atom (relation : Relation) (args : List String)
  | conj (conjuncts : List Formula)
  | implies (antecedent consequent : Formula)
  /-- The relation is a function of its last column. -/
  | function (relation : Relation)
  | misplaced (sort : String)
  deriving Repr, Inhabited

/-- A clause of a schema. -/
inductive Clause where
  /-- An integrity constraint with the variables of its head. -/
  | constraint (name : String) (vars : List String) (body : Formula)
  /-- A constraint that is known to be missing. -/
  | unsupported (message : String)
  | misplaced (sort : String)
  deriving Repr

/-- The variables `v1`, `v2` and so on. -/
def freshVariables (count : Nat) : List String :=
  (List.range count).map fun i => "v" ++ toString (i + 1)

namespace Predicate

/-- The first column whose role is among the given ones. -/
def firstOccurrence (p : Predicate) (roles : List Id) : Option Id :=
  p.roleIds.find? fun r => roles.contains r

/-- The atom that binds the columns of one role to a variable and leaves the others open. -/
def bindRole (p : Predicate) (role : Id) (var : String) : Formula :=
  .atom (.predicate p) (p.roleIds.map fun r => if r == role then var else "_")

end Predicate

end RoleSchema.Rel
