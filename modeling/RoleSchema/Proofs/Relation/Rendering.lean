import RoleSchema.Proofs.Relation.Arity
import RoleSchema.Proofs.Schema.Plan

/-!
# Which clauses can be written

Rendering stops at the first part of a clause that cannot be written, so that it fails exactly if
there is such a part: `Clause.faults` lists all of them from left to right. In the clauses of a fact
type there is one for each relation without columns, in the clause on its types, and no other. Only
a fact type without roles has such a relation, if its only uniqueness constraint spans no role. In
the clauses that place a concept every part can be written.

* `firstFault_sectionLines`: a section fails as the first fault of its clauses says.
* `Model.faults_factTypeClauses`: the faults of the clauses of a fact type.
* `Model.exists_roleIds_eq_nil_iff`: when a relation has no columns.
* `Model.rendering_fails_iff`: when the clauses of a fact type and of a concept can be written.
-/

namespace RoleSchema

/-! ## First faults -/

/-- A step fails with the first of the faults, and succeeds if there is none. -/
def FirstFault {ε α : Type} (x : Except ε α) (faults : List ε) : Prop :=
  ∀ e, x = .error e ↔ faults.head? = some e

namespace FirstFault

variable {ε α β : Type}

theorem ok (a : α) : FirstFault (.ok a : Except ε α) [] := by simp [FirstFault]

theorem error (e : ε) : FirstFault (.error e : Except ε α) [e] := by simp [FirstFault]

/-- The faults of the first step come before those of the second. -/
theorem bind {x : Except ε α} {f : α → Except ε β} {faults rest : List ε}
    (hx : FirstFault x faults) (hf : ∀ a, FirstFault (f a) rest) :
    FirstFault (x >>= f) (faults ++ rest) := by
  intro e
  cases x with
  | error e' =>
    have hhead : faults.head? = some e' := (hx e').mp rfl
    rw [List.head?_append, hhead]
    simp [Bind.bind, Except.bind]
  | ok a =>
    have hnone : faults = [] := by
      cases faults with
      | nil => rfl
      | cons e' rest => exact absurd ((hx e').mpr rfl) (by simp)
    rw [hnone, List.nil_append]
    exact hf a e

theorem map {x : Except ε α} {faults : List ε} (hx : FirstFault x faults) (f : α → β) :
    FirstFault (x >>= fun a => .ok (f a)) faults := by
  simpa using hx.bind fun a => ok (f a)

theorem mapM {f : α → Except ε β} {faults : α → List ε} (h : ∀ x, FirstFault (f x) (faults x))
    (xs : List α) : FirstFault (xs.mapM f) (xs.flatMap faults) := by
  induction xs with
  | nil => exact ok []
  | cons x xs ih =>
    rw [List.mapM_cons, List.flatMap_cons]
    exact (h x).bind fun y => ih.map (y :: ·)

end FirstFault

namespace Rel

/-! ## The faults of a clause -/

/-- Why a relation cannot be written. -/
def Relation.faults : Relation → List EmissionFault
  | .misplaced sort => [.misplacedRelation sort]
  | .type _ | .predicate _ => []

mutual

/-- Why parts of a formula cannot be written, from left to right. -/
def Formula.faults : Formula → List EmissionFault
  | .atom relation args => relation.faults ++ if args.isEmpty then [.noColumns] else []
  | .conj conjuncts => Formula.faultsOfAll conjuncts
  | .implies antecedent consequent => antecedent.faults ++ consequent.faults
  | .function relation => relation.faults
  | .misplaced sort => [.misplacedFormula sort]

/-- Why parts of the formulas of a list cannot be written. -/
def Formula.faultsOfAll : List Formula → List EmissionFault
  | [] => []
  | f :: fs => f.faults ++ Formula.faultsOfAll fs

end

/-- Why parts of a clause cannot be written. -/
def Clause.faults : Clause → List EmissionFault
  | .constraint _ _ body => body.faults
  | .unsupported _ => []
  | .misplaced sort => [.misplacedClause sort]

theorem faultsOfAll_eq_flatMap (fs : List Formula) :
    Formula.faultsOfAll fs = fs.flatMap Formula.faults := by
  induction fs with
  | nil => simp only [Formula.faultsOfAll, List.flatMap_nil]
  | cons f fs ih => simp only [Formula.faultsOfAll, ih, List.flatMap_cons]

theorem Relation.firstFault_text (r : Relation) : FirstFault r.text r.faults := by
  cases r with
  | type name => exact .ok name
  | predicate p => exact .ok p.name
  | misplaced sort => exact .error _

theorem firstFault_argumentsText (args : List String) :
    FirstFault (argumentsText args) (if args.isEmpty then [.noColumns] else []) := by
  unfold argumentsText
  split
  · exact .error _
  · exact .ok _

mutual

/-- A formula cannot be written for the reason of its first part that cannot. -/
theorem Formula.firstFault_text (f : Formula) : FirstFault f.text f.faults := by
  match f with
  | .atom relation args =>
    rw [Formula.text, Formula.faults]
    exact relation.firstFault_text.bind fun name => (firstFault_argumentsText args).map _
  | .conj conjuncts =>
    rw [Formula.text, Formula.faults]
    exact (Formula.firstFault_texts conjuncts).map _
  | .implies antecedent consequent =>
    rw [Formula.text, Formula.faults]
    exact (Formula.firstFault_text antecedent).bind fun a =>
      (Formula.firstFault_text consequent).map _
  | .function relation =>
    rw [Formula.text, Formula.faults]
    exact relation.firstFault_text.map _
  | .misplaced sort =>
    rw [Formula.text, Formula.faults]
    exact .error _

theorem Formula.firstFault_texts (fs : List Formula) :
    FirstFault (Formula.texts fs) (Formula.faultsOfAll fs) := by
  match fs with
  | [] =>
    rw [Formula.texts, Formula.faultsOfAll]
    exact .ok []
  | f :: fs =>
    rw [Formula.texts, Formula.faultsOfAll]
    exact (Formula.firstFault_text f).bind fun t => (Formula.firstFault_texts fs).map _

end

theorem Clause.firstFault_text (c : Clause) : FirstFault c.text c.faults := by
  cases c with
  | constraint name vars body => exact body.firstFault_text.map _
  | unsupported message => exact .ok _
  | misplaced sort => exact .error _

/-- A section cannot be written for the reason of the first part of its clauses that cannot. -/
theorem firstFault_sectionLines (header : String) (clauses : List Clause) :
    FirstFault (sectionLines header clauses) (clauses.flatMap Clause.faults) :=
  (FirstFault.mapM Clause.firstFault_text clauses).map _

end Rel

open RoleSchema.Rel (Predicate Formula Clause EmissionFault sectionLines freshVariables)

/-! ## The faults in each kind of clause -/

theorem faults_manyOneClause (u : Id) (p : Predicate) : (manyOneClause u p).faults = [] := by
  unfold manyOneClause
  split <;> rfl

/-- The fault of a relation without columns. -/
def faultsOfColumns (p : Predicate) : List EmissionFault :=
  if p.roleIds = [] then [.noColumns] else []

theorem head?_faultsOfColumns {relations : List Predicate} {e : EmissionFault} :
    (relations.flatMap faultsOfColumns).head? = some e ↔
      e = .noColumns ∧ ∃ p ∈ relations, p.roleIds = [] := by
  induction relations with
  | nil => simp
  | cons p rest ih =>
    rw [List.flatMap_cons]
    by_cases hp : p.roleIds = []
    · have hsome : ∃ q ∈ p :: rest, q.roleIds = [] := ⟨p, List.mem_cons_self .., hp⟩
      rw [faultsOfColumns, if_pos hp, and_iff_left hsome]
      exact Option.some_inj.trans eq_comm
    · rw [faultsOfColumns, if_neg hp, List.nil_append, ih]
      simp [hp]

namespace Model

variable {m : Model} {f : FactType}

theorem faults_containmentIn (p : Predicate) (role : Id) : (m.containmentIn p role).faults = [] :=
  rfl

/-- The clause on the types of the columns has an argument for each, and one for each of their
types. -/
theorem faults_typeClause (p : Predicate) : (m.typeClause p).faults = faultsOfColumns p := by
  have hvars : (freshVariables p.roleIds.length).isEmpty ↔ p.roleIds = [] := by
    simp [freshVariables]
  have htypes : Formula.faultsOfAll ((p.roleIds.zip (freshVariables p.roleIds.length)).map fun c =>
      .atom (.type (m.roleType c.1)) [c.2]) = [] := by
    simp [Rel.faultsOfAll_eq_flatMap, List.flatMap_map, Formula.faults, Rel.Relation.faults]
  simp only [typeClause, Clause.faults, Formula.faults, htypes, Rel.Relation.faults,
    List.nil_append, List.append_nil, hvars, faultsOfColumns]

/-- A mandatory constraint covers a column of the relation if it has a clause, so that the relation
has columns. -/
theorem faults_mandatoryClause {c : MandatoryConstraint} {p : Predicate} {clause : Clause}
    (h : m.mandatoryClause c p = some clause) : clause.faults = [] := by
  obtain ⟨role, hrole, -⟩ := isSome_mandatoryClause.mp ⟨clause, h⟩
  obtain ⟨role', -, rfl⟩ := Option.map_eq_some_iff.mp h
  have hcolumns : p.roleIds ≠ [] := List.ne_nil_of_mem hrole
  simp [Clause.faults, Formula.faults, Rel.Relation.faults, Predicate.bindRole, hcolumns]

theorem faults_wholeClausesOf (p : Predicate) :
    (m.wholeClausesOf f p).flatMap Clause.faults = [] := by
  unfold wholeClausesOf
  split
  · simp [faults_containmentIn]
  · simp [faults_manyOneClause]

theorem faults_columnClausesOf (p : Predicate) :
    (m.columnClausesOf f p).flatMap Clause.faults = faultsOfColumns p := by
  have hmandatory : ((m.mandatoryConstraintsOf f).filterMap
      fun c => m.mandatoryClause c p).flatMap Clause.faults = [] := by
    rw [List.flatMap_eq_nil_iff]
    intro clause hclause
    obtain ⟨c, -, hc⟩ := List.mem_filterMap.mp hclause
    exact faults_mandatoryClause hc
  rw [columnClausesOf, List.flatMap_append, hmandatory, List.append_nil]
  split
  · next h =>
    obtain ⟨key, value, rest, hk, -, -⟩ := columns_of_isUnary h
    simp [faultsOfColumns, Predicate.roleIds, hk]
  · rw [List.flatMap_singleton, faults_typeClause]

/-! ## Fact types -/

/-- The faults of the clauses of a fact type are one for each relation without columns. -/
theorem faults_factTypeClauses {relations : List Predicate} {whole : List Clause}
    (h : (m.relationsAndClauses f).result = .ok (relations, whole)) :
    (whole ++ relations.flatMap (m.columnClausesOf f)).flatMap Clause.faults =
      relations.flatMap faultsOfColumns := by
  have hwhole : whole.flatMap Clause.faults = [] := by
    rcases relationsAndClauses_eq_ok h with ⟨r, rel, -, -, -, rfl⟩ | ⟨-, -, rfl⟩
    · simp [faults_manyOneClause]
    · simp [List.flatMap_assoc, faults_wholeClausesOf]
  rw [List.flatMap_append, hwhole, List.nil_append, List.flatMap_assoc]
  simp only [faults_columnClausesOf]

/-- A relation has no columns only if it is that of a fact type without roles, whose uniqueness
constraint spans nothing. -/
theorem exists_roleIds_eq_nil_iff {relations : List Predicate} {whole : List Clause}
    (h : (m.relationsAndClauses f).result = .ok (relations, whole)) :
    (∃ p ∈ relations, p.roleIds = []) ↔
      f.roles = [] ∧ ∃ u, m.uniquenessConstraintsOf f = [u] ∧ u.roleIds = [] := by
  constructor
  · rintro ⟨p, hp, hcolumns⟩
    cases gives_of_mem h hp with
    | forward => cases hcolumns
    | inverse => cases hcolumns
    | named => simp [Predicate.roleIds] at hcolumns
    | @whole u name hu =>
      obtain ⟨hkey, hvalue⟩ : u.roleIds = [] ∧ f.rolesExcludedBy u = [] :=
        List.append_eq_nil_iff.mp hcolumns
      have hroles : f.roles = [] := by
        simpa [FactType.rolesExcludedBy, FactType.roleIds, UniquenessConstraint.spans, hkey]
          using hvalue
      exact ⟨hroles, u, hu, hkey⟩
  · rintro ⟨hroles, u, hu, hkey⟩
    rcases relationsAndClauses_eq_ok h with ⟨r, rel, hm, -⟩ | ⟨-, hr, -⟩
    · have htwo := (identifies_of_match hm).twoRoles
      rw [hroles] at htwo
      cases htwo
    · have hnames : f.hasNamedRoles = false := by simp [FactType.hasNamedRoles, hroles]
      rw [result_relationsFor, if_neg (by simp [hnames])] at hr
      unfold systemNamedRelations at hr
      rw [hu] at hr
      obtain ⟨name, -, hr⟩ := Reporting.result_bind_eq_ok_iff.mp hr
      cases hr
      refine ⟨_, List.mem_singleton.mpr rfl, ?_⟩
      simp [Predicate.roleIds, hkey, FactType.rolesExcludedBy, FactType.roleIds, hroles]

/-- The clauses of a concept can be written under any header. -/
theorem exists_sectionLines_entityTypeClauses (m : Model) (d : Diagram) (e : ObjectType)
    (header : String) : ∃ clauses lines, (m.entityTypeClauses d e).result = .ok clauses ∧
      sectionLines header clauses = .ok lines := by
  obtain ⟨block, hl, -⟩ := result_conceptSection m e d
  obtain ⟨lines, hl, -⟩ := bind_eq_ok_iff.mp hl
  exact ⟨_, _, rfl, bind_eq_ok_iff.mpr ⟨lines, hl, rfl⟩⟩

/-- **What cannot be written.** The clauses of a fact type cannot be written exactly if one of its
relations has no columns, and this is the fault. A relation has no columns exactly if the fact type
has no roles and its only uniqueness constraint spans none. The clauses of a concept can always be
written. -/
theorem rendering_fails_iff (m : Model) (header : String) :
    (∀ f clauses, (m.factTypeClauses f).result = .ok clauses →
      ∃ relations whole, (m.relationsAndClauses f).result = .ok (relations, whole) ∧
        (∀ e, sectionLines header clauses = .error e ↔
          e = .noColumns ∧ ∃ p ∈ relations, p.roleIds = []) ∧
        ((∃ p ∈ relations, p.roleIds = []) ↔
          f.roles = [] ∧ ∃ u, m.uniquenessConstraintsOf f = [u] ∧ u.roleIds = [])) ∧
    ∀ d e, ∃ clauses lines, (m.entityTypeClauses d e).result = .ok clauses ∧
      sectionLines header clauses = .ok lines := by
  constructor
  · intro f clauses hc
    obtain ⟨relations, whole, h, rfl⟩ := factTypeClauses_eq_ok_iff.mp hc
    refine ⟨relations, whole, h, fun e => ?_, exists_roleIds_eq_nil_iff h⟩
    rw [Rel.firstFault_sectionLines header _ e, faults_factTypeClauses h, head?_faultsOfColumns]
  · exact fun d e => exists_sectionLines_entityTypeClauses m d e header

end Model

/-! ## A fact type without roles -/

namespace Weather

/-- It rains: nothing takes part in the fact, which is there at most once. -/
def rains : FactType where
  id := some "rains"
  name := "ItRains"
  uniquenessIds := [some "at most once"]

def model : Model where
  factTypes := [rains]
  uniquenessConstraints := [{ id := some "at most once", roleIds := [] }]

/-- The relation without columns. -/
def rain : Predicate := ⟨"it_rains", some "at most once", [], []⟩

theorem factTypeClauses_rains : (model.factTypeClauses rains).result =
    .ok [manyOneClause (some "at most once") rain, model.typeClause rain] := by
  rfl

/-- That it rains cannot be written. -/
theorem rains_not_written : ∃ clauses, (model.factTypeClauses rains).result = .ok clauses ∧
    sectionLines "ItRains" clauses = .error .noColumns := by
  obtain ⟨hfacts, -⟩ := Model.rendering_fails_iff model "ItRains"
  obtain ⟨relations, whole, -, hfault, hcolumns⟩ := hfacts rains _ factTypeClauses_rains
  exact ⟨_, factTypeClauses_rains,
    (hfault .noColumns).mpr ⟨rfl, hcolumns.mpr ⟨rfl, _, rfl, rfl⟩⟩⟩

end Weather

end RoleSchema
