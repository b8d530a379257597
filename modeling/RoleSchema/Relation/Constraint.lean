import RoleSchema.Relation.Inference

/-!
# The constraints of a fact type

For each relation of a fact type: whether it is a function, the types of its columns, and that the
instances of a type that must take part do. A relation with one key column that only says whether
something holds is a set: it is contained in a type instead of being a function.
-/

namespace RoleSchema

open RoleSchema.Rel (Predicate Formula Clause freshVariables)

/-- A mandatory constraint covers no column of a relation. -/
def Diagnostic.unboundMandatoryRole (f : FactType) (c : MandatoryConstraint) (p : Predicate) :
    Diagnostic where
  severity := .warning
  code := "unbound-mandatory-role"
  message := "Mandatory constraint " ++ c.id.text ++ " covers no column of relation " ++ p.name ++
    " in fact type " ++ f.name
  element := c.id

/-- The clause that a relation is a function, if a uniqueness constraint is the one over its key. -/
def manyOneClause (uniqueness : Id) (p : Predicate) : Clause :=
  if p.uniqueness == uniqueness then
    .constraint (p.name ++ "_many_one") [] (.function (.predicate p))
  else
    .unsupported ("TBD: Many to one constraint for non-generating uniqueness constraint " ++
      "of relation " ++ p.name)

namespace Model

variable (m : Model)

/-- Whether a relation is a set: one key column, and a value that only says that the fact holds. -/
def isUnary (p : Predicate) : Bool :=
  match p.key, p.value with
  | [_], v :: _ => m.isImplicitBoolean v
  | _, _ => false

/-- The clause that every column holds instances of its type. -/
def typeClause (p : Predicate) : Clause :=
  let vars := freshVariables p.roleIds.length
  .constraint (p.name ++ "_types") vars
    (.implies (.atom (.predicate p) vars)
      (.conj ((p.roleIds.zip vars).map fun c => .atom (.type (m.roleType c.1)) [c.2])))

/-- The clause that a set is contained in the type of its key. -/
def subsetClause (p : Predicate) : Except SchemaFault Clause :=
  match p.key with
  | [] => .error .noKey
  | role :: _ =>
    .ok (.constraint (p.name ++ "_subset") []
      (.implies (.atom (.predicate p) ["v"]) (.atom (.type (m.roleType role)) ["v"])))

/-- The clause that every instance of a type occurs in the first column that a mandatory constraint
covers; none if it covers no column. -/
def mandatoryClause (c : MandatoryConstraint) (p : Predicate) : Option Clause :=
  (p.firstOccurrence c.roleIds).map fun role =>
    .constraint (Text.lower (m.roleType role) ++ "_mandatory_in_" ++ p.name) ["v"]
      (.implies (.atom (.type (m.roleType role)) ["v"]) (p.bindRole role "v"))

/-- The clauses that say how a relation may be used as a whole. -/
def relationClauses (f : FactType) (p : Predicate) : Except SchemaFault (List Clause) :=
  if m.isUnary p then (m.subsetClause p).map ([·])
  else .ok (f.uniquenessIds.map fun u => manyOneClause u p)

/-- The clauses of mandatory constraints on a relation; a constraint that covers no column is
reported. -/
def mandatoryClauses (f : FactType) (p : Predicate) :
    List MandatoryConstraint → Reporting SchemaFault (List Clause)
  | [] => pure []
  | c :: rest => do
    let first ← match m.mandatoryClause c p with
      | some clause => pure [clause]
      | none => do
        Reporting.find (.unboundMandatoryRole f c p)
        pure []
    let others ← mandatoryClauses f p rest
    pure (first ++ others)

/-- The clauses about the columns of relations, relation by relation. -/
def columnClauses (f : FactType) : List Predicate → Reporting SchemaFault (List Clause)
  | [] => pure []
  | p :: rest => do
    let types := if m.isUnary p then [] else [m.typeClause p]
    let mandatory ← m.mandatoryClauses f p (m.mandatoryConstraintsOf f)
    let others ← columnClauses f rest
    pure (types ++ mandatory ++ others)

/-- The relations of a fact type and the clauses that say how each may be used as a whole. -/
def relationsAndClauses (f : FactType) :
    Reporting SchemaFault (List Predicate × List Clause) := do
  match ← Reporting.ofExcept (m.matchReferenceMode f) with
  | some r => do
    Reporting.note .debug ("Fact type " ++ f.name ++ ": reference mode of " ++ r.entity.name)
    let relations ← Reporting.ofExcept (m.referenceModeRelations r)
    pure ([relations.forward, relations.inverse],
      [manyOneClause r.identifierUniqueness relations.inverse,
        manyOneClause r.entityUniqueness relations.forward])
  | none => do
    let relations ← m.relationsFor f
    let clauses ← Reporting.ofExcept (relations.mapM (m.relationClauses f))
    pure (relations, clauses.flatten)

/-- All clauses of a fact type: those about whole relations, then those about columns. -/
def factTypeClauses (f : FactType) : Reporting SchemaFault (List Clause) := do
  let (relations, clauses) ← m.relationsAndClauses f
  let columns ← m.columnClauses f relations
  pure (clauses ++ columns)

end Model

end RoleSchema
