import RoleSchema.Proofs.Relation.Inference
import RoleSchema.Relation.Constraint

/-!
# Which clauses a fact type has

The clauses of a fact type are the clauses about its relations as wholes, and then, relation by
relation, a clause on the types of the columns and one for each mandatory constraint that covers a
column. Once the relations are known nothing can fail: a relation that is a set has a key column.

* `factTypeClauses_eq_ok_iff`: all clauses, in order.
* `relationsAndClauses_eq_ok`: the relations and the clauses about them as wholes.
* `mem_relations_of_function`: a relation that is said to be a function is one of the relations.
-/

namespace RoleSchema

open RoleSchema.Rel (Predicate Relation Formula Clause)

namespace Model

variable (m : Model) (f : FactType)

/-- The clause that a set is contained in the type of `role`. -/
def containmentIn (p : Predicate) (role : Id) : Clause :=
  .constraint (p.name ++ "_subset") []
    (.implies (.atom (.predicate p) ["v"]) (.atom (.type (m.roleType role)) ["v"]))

/-- The clauses about a relation as a whole: a set is contained in the type of its key, any other
relation has a clause for each uniqueness constraint. -/
def wholeClausesOf (p : Predicate) : List Clause :=
  if m.isUnary p then p.key.map (m.containmentIn p)
  else f.uniquenessIds.map fun u => manyOneClause u p

/-- The clauses about the columns of a relation. -/
def columnClausesOf (p : Predicate) : List Clause :=
  (if m.isUnary p then [] else [m.typeClause p]) ++
    (m.mandatoryConstraintsOf f).filterMap fun c => m.mandatoryClause c p

variable {m f}

/-! ## The clauses as lists -/

/-- A relation that is a set has one key column and at least one value column. -/
theorem columns_of_isUnary {p : Predicate} (h : m.isUnary p = true) :
    ∃ key value rest, p.key = [key] ∧ p.value = value :: rest ∧
      m.isImplicitBoolean value = true := by
  unfold isUnary at h
  split at h
  · next key value rest hk hv => exact ⟨key, value, rest, hk, hv, h⟩
  · cases h

theorem relationClauses_eq (p : Predicate) :
    m.relationClauses f p = .ok (m.wholeClausesOf f p) := by
  unfold relationClauses wholeClausesOf
  split
  · next h =>
    obtain ⟨key, -, -, hk, -⟩ := columns_of_isUnary h
    simp only [subsetClause, hk]
    rfl
  · rfl

theorem result_mandatoryClauses (p : Predicate) (constraints : List MandatoryConstraint) :
    (m.mandatoryClauses f p constraints).result =
      .ok (constraints.filterMap fun c => m.mandatoryClause c p) := by
  induction constraints with
  | nil => rfl
  | cons c rest ih =>
    have hrest (first : List Clause) :
        (m.mandatoryClauses f p rest >>= fun others => pure (first ++ others)).result =
          .ok (first ++ rest.filterMap fun c => m.mandatoryClause c p) := by
      rw [Reporting.result_bind_of_ok ih]
      rfl
    rw [List.filterMap_cons]
    unfold mandatoryClauses
    -- both branches report nothing that can fail before the remaining constraints
    cases m.mandatoryClause c p with
    | some clause => exact hrest [clause]
    | none => exact hrest []

theorem result_columnClauses (relations : List Predicate) :
    (m.columnClauses f relations).result = .ok (relations.flatMap (m.columnClausesOf f)) := by
  induction relations with
  | nil => rfl
  | cons p rest ih =>
    unfold columnClauses
    rw [Reporting.result_bind_of_ok (result_mandatoryClauses p _), Reporting.result_bind_of_ok ih]
    rfl

theorem result_factTypeClauses : (m.factTypeClauses f).result =
    (m.relationsAndClauses f).result.map fun x => x.2 ++ x.1.flatMap (m.columnClausesOf f) := by
  unfold factTypeClauses
  cases h : (m.relationsAndClauses f).result with
  | error fault => exact Reporting.result_bind_eq_error_iff.mpr (Or.inl h)
  | ok x =>
    rw [Reporting.result_bind_of_ok h, Reporting.result_bind_of_ok (result_columnClauses x.1)]
    rfl

/-- The clauses of a fact type are those about whole relations, then those about columns. -/
theorem factTypeClauses_eq_ok_iff {clauses : List Clause} :
    (m.factTypeClauses f).result = .ok clauses ↔
      ∃ relations whole, (m.relationsAndClauses f).result = .ok (relations, whole) ∧
        clauses = whole ++ relations.flatMap (m.columnClausesOf f) := by
  rw [result_factTypeClauses, map_eq_ok_iff, Prod.exists]
  simp only [eq_comm]

/-- Where a fact type is no reference mode, its relations are those of its names, with the clauses
about each as a whole. -/
theorem result_relationsAndClauses_of_none (h : m.matchReferenceMode f = .ok none) :
    (m.relationsAndClauses f).result =
      (m.relationsFor f).result.map fun ps => (ps, ps.flatMap (m.wholeClausesOf f)) := by
  unfold relationsAndClauses
  rw [h, Reporting.result_bind_of_ok rfl]
  simp only [mapM_of_ok fun p _ => relationClauses_eq p]
  exact Reporting.result_bind_pure _ _

/-- Where a fact type is a reference mode, its relations are the two of the mode, each a function. -/
theorem result_relationsAndClauses_of_mode {r : ReferenceMode}
    (h : m.matchReferenceMode f = .ok (some r)) :
    (m.relationsAndClauses f).result = (m.referenceModeRelations r).map fun rel =>
      ([rel.forward, rel.inverse], [manyOneClause r.identifierUniqueness rel.inverse,
        manyOneClause r.entityUniqueness rel.forward]) := by
  unfold relationsAndClauses
  rw [h, Reporting.result_bind_of_ok rfl]
  dsimp only
  rw [Reporting.result_bind_of_ok rfl]
  exact Reporting.result_bind_pure _ _

/-- A fact type is a reference mode with its two relations, or has the relations of its names. -/
theorem relationsAndClauses_eq_ok {relations : List Predicate} {whole : List Clause}
    (h : (m.relationsAndClauses f).result = .ok (relations, whole)) :
    (∃ r rel, m.matchReferenceMode f = .ok (some r) ∧ m.referenceModeRelations r = .ok rel ∧
      relations = [rel.forward, rel.inverse] ∧
      whole = [manyOneClause r.identifierUniqueness rel.inverse,
        manyOneClause r.entityUniqueness rel.forward]) ∨
    (m.matchReferenceMode f = .ok none ∧ (m.relationsFor f).result = .ok relations ∧
      whole = relations.flatMap (m.wholeClausesOf f)) := by
  cases hm : m.matchReferenceMode f with
  | error fault =>
    unfold relationsAndClauses at h
    rw [hm] at h
    cases h
  | ok o =>
    cases o with
    | some r =>
      rw [result_relationsAndClauses_of_mode hm, map_eq_ok_iff] at h
      obtain ⟨rel, hrel, h⟩ := h
      cases h
      exact Or.inl ⟨r, rel, rfl, hrel, rfl, rfl⟩
    | none =>
      rw [result_relationsAndClauses_of_none hm, map_eq_ok_iff] at h
      obtain ⟨ps, hps, h⟩ := h
      cases h
      exact Or.inr ⟨rfl, hps, rfl⟩

/-! ## Where a clause comes from -/

/-- Every relation comes of the fact type in one of the four ways. -/
theorem gives_of_mem {relations : List Predicate} {whole : List Clause} {p : Predicate}
    (h : (m.relationsAndClauses f).result = .ok (relations, whole)) (hp : p ∈ relations) :
    m.Gives f p := by
  rcases relationsAndClauses_eq_ok h with ⟨r, rel, hm, hr, rfl, -⟩ | ⟨-, hr, -⟩
  · have hi := identifies_of_match hm
    obtain ⟨identifier, forward, inverse, hd, hf, hb⟩ := relations_of_referenceMode hr
    rcases List.mem_cons.mp hp with rfl | hp
    · rw [hf]
      exact .forward forward hi hd
    · rw [List.mem_singleton.mp hp, hb]
      exact .inverse inverse hi hd
  · exact gives_of_mem_relationsFor hr hp

theorem eq_of_manyOneClause {u : Id} {p q : Predicate} {name : String} {vars : List String}
    (h : manyOneClause u q = .constraint name vars (.function (.predicate p))) : p = q := by
  unfold manyOneClause at h
  split at h
  · simp only [Clause.constraint.injEq, Formula.function.injEq, Relation.predicate.injEq] at h
    exact h.2.2.symm
  · cases h

theorem function_notMem_columnClausesOf {p q : Predicate} {name : String} {vars : List String} :
    .constraint name vars (.function (.predicate p)) ∉ m.columnClausesOf f q := by
  intro h
  rcases List.mem_append.mp h with h | h
  · split at h
    · cases h
    · simp [typeClause] at h
  · obtain ⟨c, -, hc⟩ := List.mem_filterMap.mp h
    obtain ⟨role, -, hr⟩ := Option.map_eq_some_iff.mp hc
    simp at hr

/-- A relation that is said to be a function is one of the relations of the fact type. -/
theorem mem_relations_of_function {relations : List Predicate} {whole : List Clause}
    {p : Predicate} {name : String} {vars : List String}
    (h : (m.relationsAndClauses f).result = .ok (relations, whole))
    (hc : .constraint name vars (.function (.predicate p)) ∈
      whole ++ relations.flatMap (m.columnClausesOf f)) : p ∈ relations := by
  rcases List.mem_append.mp hc with hw | hc
  · rcases relationsAndClauses_eq_ok h with ⟨r, rel, -, -, rfl, rfl⟩ | ⟨-, -, rfl⟩
    · rcases List.mem_cons.mp hw with he | hw
      · simp [eq_of_manyOneClause he.symm]
      · simp [eq_of_manyOneClause (List.mem_singleton.mp hw).symm]
    · obtain ⟨q, hq, hw⟩ := List.mem_flatMap.mp hw
      unfold wholeClausesOf at hw
      split at hw
      · obtain ⟨role, -, hr⟩ := List.mem_map.mp hw
        simp [containmentIn] at hr
      · obtain ⟨u, -, hu⟩ := List.mem_map.mp hw
        rwa [eq_of_manyOneClause hu]
  · obtain ⟨q, -, hc⟩ := List.mem_flatMap.mp hc
    exact absurd hc function_notMem_columnClausesOf

end Model

end RoleSchema
