import RoleSchema.Rel.Syntax

/-!
# The text of Rel clauses

Each clause is written on one line. Rendering goes from left to right and stops at the first part
that cannot be written: an atom without arguments, or a value of another sort in the place of a
relation, a formula or a clause.
-/

namespace RoleSchema.Rel

/-- Why a part cannot be written. -/
inductive EmissionFault where
  /-- An atom without arguments. -/
  | noColumns
  | misplacedRelation (sort : String)
  | misplacedFormula (sort : String)
  | misplacedClause (sort : String)
  deriving DecidableEq, Repr

/-- The wording of a fault. -/
def EmissionFault.message : EmissionFault → String
  | .noColumns => "Cannot currently emit code for relations with no columns"
  | .misplacedRelation sort => "Unknown relation variant: " ++ sort
  | .misplacedFormula sort => "Unknown formula variant: " ++ sort
  | .misplacedClause sort => "Unknown clause variant: " ++ sort

/-- The name by which a relation is called. -/
def Relation.text : Relation → Except EmissionFault String
  | .type name => .ok name
  | .predicate p => .ok p.name
  | .misplaced sort => .error (.misplacedRelation sort)

/-- Arguments or variables between commas. -/
def argumentsText (args : List String) : Except EmissionFault String :=
  if args.isEmpty then .error .noColumns else .ok (", ".intercalate args)

mutual

/-- The text of a formula. -/
def Formula.text : Formula → Except EmissionFault String
  | .atom relation args => do
    let name ← relation.text
    let args ← argumentsText args
    .ok (name ++ "(" ++ args ++ ")")
  | .conj conjuncts => do
    let texts ← Formula.texts conjuncts
    .ok (" and ".intercalate texts)
  | .implies antecedent consequent => do
    let a ← antecedent.text
    let c ← consequent.text
    .ok (a ++ " implies " ++ c)
  | .function relation => do
    let name ← relation.text
    .ok ("function(" ++ name ++ ")")
  | .misplaced sort => .error (.misplacedFormula sort)

/-- The texts of formulas. -/
def Formula.texts : List Formula → Except EmissionFault (List String)
  | [] => .ok []
  | f :: fs => do
    let t ← f.text
    let ts ← Formula.texts fs
    .ok (t :: ts)

end

/-- The name of a constraint with the variables of its head. -/
def headText (name : String) (vars : List String) : String :=
  if vars.isEmpty then name else name ++ "(" ++ ", ".intercalate vars ++ ")"

/-- The line of a clause. -/
def Clause.text : Clause → Except EmissionFault String
  | .constraint name vars body => do
    let body ← body.text
    .ok ("ic " ++ headText name vars ++ " \x7b " ++ body ++ " \x7d")
  | .unsupported message => .ok ("// Error: " ++ message)
  | .misplaced sort => .error (.misplacedClause sort)

/-- The line that heads a section. -/
def headerLine (header : String) : String := "// " ++ header

/-- A section: its header and a line for each clause. -/
def sectionLines (header : String) (clauses : List Clause) :
    Except EmissionFault (List String) := do
  let lines ← clauses.mapM Clause.text
  .ok (headerLine header :: lines)

end RoleSchema.Rel
