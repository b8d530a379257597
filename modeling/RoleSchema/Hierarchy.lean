import RoleSchema.Relation.ReferenceMode

/-!
# The hierarchy of a concept

The clauses that place a concept and its subtypes: a concept without supertypes is an entity, any
other is contained in each of its supertypes. A walk goes from a concept down to all its subtypes,
drawn or not, and visits each once; only what is drawn on the diagram contributes clauses.
-/

namespace RoleSchema

open RoleSchema.Rel (Clause)

/-- A name that cannot be turned into a name of the schema. -/
def Diagnostic.invalidName (fault : NamingFault) (element : Id) : Diagnostic where
  severity := .warning
  code := "invalid-name"
  message := fault.message
  element := element

/-- The clause that the instances of one type are instances of another. -/
def containmentClause (name sub super : String) : Clause :=
  .constraint name ["v"] (.implies (.atom (.type sub) ["v"]) (.atom (.type super) ["v"]))

/-- The clause that a concept without supertypes is an entity. -/
def topLevelClause (e : ObjectType) : Except NamingFault Clause := do
  let name ← snakeCase e.name
  .ok (containmentClause (name ++ "_is_entity") e.name "Entity")

/-- The clause that a concept is a subtype of another. -/
def subtypeClause (e super : ObjectType) : Except NamingFault Clause := do
  let sub ← snakeCase e.name
  let sup ← snakeCase super.name
  .ok (containmentClause (sub ++ "_is_subtype_of_" ++ sup) e.name super.name)

namespace Model

variable (m : Model)

/-- The clauses that place a concept. -/
def placementClauses (e : ObjectType) : Except NamingFault (List Clause) :=
  match m.superTypes e with
  | [] => (topLevelClause e).map ([·])
  | supers => supers.mapM (subtypeClause e)

/-- What a concept contributes to a walk: the clauses that place it if it is drawn, or the finding
that a name they need is not valid. -/
def placement (d : Diagram) (e : ObjectType) : List Clause × List Diagnostic :=
  if d.draws e.id then
    match m.placementClauses e with
    | .ok clauses => (clauses, [])
    | .error fault => ([], [.invalidName fault e.id])
  else ([], [])

/-- The subtype facts that lead down from types that have not been visited. -/
def openFacts (visited : List Id) : List SubtypeFact :=
  m.subtypeFacts.filter fun s => !visited.contains s.supertypeId

theorem length_subTypes_add_openFacts (e : ObjectType) (visited : List Id)
    (h : visited.contains e.id = false) :
    (m.subTypes e).length + (m.openFacts (e.id :: visited)).length ≤
      (m.openFacts visited).length := by
  unfold subTypes openFacts
  induction m.subtypeFacts with
  | nil => simp
  | cons s rest ih =>
    by_cases hs : s.supertypeId = e.id
    · have hv : visited.contains s.supertypeId = false := by rw [hs]; exact h
      cases hm : m.entityById s.subtypeId <;>
        simp [hs, hm] at ih ⊢ <;> simp_all <;> omega
    · by_cases hv : visited.contains s.supertypeId
      · simp_all
      · simp_all
        omega

/-- The concepts that a walk reaches, in the order of the walk, and all that have been visited
afterwards. `todo` are the concepts still to be visited, the next one first; a concept's subtypes
come before what is left. -/
def reach (visited : List Id) : List ObjectType → List ObjectType × List Id
  | [] => ([], visited)
  | e :: todo =>
    if _h : visited.contains e.id then reach visited todo
    else
      let (reached, visited) := reach (e.id :: visited) (m.subTypes e ++ todo)
      (e :: reached, visited)
termination_by todo => todo.length + (m.openFacts visited).length
decreasing_by
  · simp
  · have := m.length_subTypes_add_openFacts e visited (by simpa using _h)
    simp only [List.length_append, List.length_cons]
    omega

end Model

/-- What a walk from a concept gives. -/
structure Walk where
  clauses : List Clause
  findings : List Diagnostic
  /-- The concepts visited so far, over all walks. -/
  visited : List Id
  deriving Repr

/-- Walks from a concept over the concepts that have not been visited. -/
def Model.walk (m : Model) (d : Diagram) (visited : List Id) (e : ObjectType) : Walk :=
  let (reached, visited) := m.reach visited [e]
  let placements := reached.map (m.placement d)
  ⟨placements.flatMap Prod.fst, placements.flatMap Prod.snd, visited⟩

/-- The clauses that place a concept and its subtypes on a diagram. -/
def Model.entityTypeClauses (m : Model) (d : Diagram) (e : ObjectType) :
    Reporting SchemaFault (List Clause) :=
  let w := m.walk d [] e
  ⟨w.findings.map .diagnostic, .ok w.clauses⟩

end RoleSchema
