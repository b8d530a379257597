import RoleSchema.Relation.ReferenceMode

/-!
# Concepts of diagrams

A diagram named `X:concept` is about the concept `X`, an entity type that must be drawn on it; what
stands between the concept and the ending, as in `Subscription (billing):concept`, is a remark.

* `conceptToken`: the concept that a name tells of.
* `Model.resolveConcept`: the entity type that a diagram is about.
-/

namespace RoleSchema

/-- The characters of which the name of a concept consists. -/
def isConceptChar (c : Char) : Bool :=
  c ≠ '(' && c ≠ ':' && c ≠ '|' && c ≠ ' ' && c ≠ ')'

/-- The ending of the names of diagrams about a concept. -/
def conceptEnding : List Char := ":concept".toList

/-- Characters without one final line feed. -/
def dropFinalLineFeed (cs : List Char) : List Char :=
  if cs.getLast? = some '\n' then cs.dropLast else cs

/-- Whether a remark with the ending of a concept's diagram follows a concept: on one line, but for
one line feed at the very end. -/
def isConceptRest (cs : List Char) : Bool :=
  let body := dropFinalLineFeed cs
  conceptEnding.isSuffixOf body && body.all (· ≠ '\n')

/-- The concept that the name of a diagram tells of, as characters. -/
def conceptChars (cs : List Char) : Option (List Char) :=
  match cs.takeWhile isConceptChar with
  | [] => none
  | c :: t => if isConceptRest (cs.dropWhile isConceptChar) then some (c :: t) else none

/-- The concept that the name of a diagram tells of. -/
def conceptToken (name : String) : Option String := (conceptChars name.toList).map String.ofList

/-- Why a diagram has no concept. -/
inductive ConceptProblem where
  | notNamed
  | noEntity (token : String)
  | notDrawn (token : String)
  deriving DecidableEq, Repr

/-- A diagram without a concept. -/
structure ConceptFault where
  diagram : String
  problem : ConceptProblem
  deriving DecidableEq, Repr

/-- The wording of a problem. -/
def ConceptProblem.message : ConceptProblem → String
  | .notNamed => "name does not follow the 'X:concept' convention"
  | .noEntity token => "no entity type named '" ++ token ++ "'"
  | .notDrawn token => "entity type '" ++ token ++ "' is not drawn on the diagram"

/-- The wording of a fault. -/
def ConceptFault.message (f : ConceptFault) : String :=
  "Diagram '" ++ f.diagram ++ "': " ++ f.problem.message

namespace Model

/-- The entity type that a diagram is about. -/
def resolveConcept (m : Model) (d : Diagram) : Except ConceptFault ObjectType :=
  match conceptToken d.name with
  | none => .error ⟨d.name, .notNamed⟩
  | some token =>
    match m.entityByName token with
    | none => .error ⟨d.name, .noEntity token⟩
    | some e => if d.draws e.id then .ok e else .error ⟨d.name, .notDrawn token⟩

/-- The entity type that a diagram is about, if there is one. -/
def centralConcept (m : Model) (d : Diagram) : Option ObjectType := (m.resolveConcept d).toOption

end Model

end RoleSchema
