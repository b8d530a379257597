import RoleSchema.Proofs.Relation.Clauses

/-!
# At which arities relations are used

Three clauses apply a relation to arguments. The clause on types and the clause of a mandatory
constraint have an argument for each column, while the clause that a set is contained in a type has
one argument, though the relation of a set has two columns at least. `Model.uses_iff` collects all
uses of relations in the clauses of a fact type.

* `Model.arityAgrees_iff`: the exact condition under which no relation is used at two arities.
* `Cancellations.arity_differs_on_mandatory`: a set whose key must take part.
-/

namespace RoleSchema

namespace Rel

/-! ## Atoms -/

mutual

/-- The atoms of a formula: relations with their arguments. -/
def Formula.atoms : Formula → List (Relation × List String)
  | .atom relation args => [(relation, args)]
  | .conj conjuncts => Formula.atomsOfAll conjuncts
  | .implies antecedent consequent => antecedent.atoms ++ consequent.atoms
  | .function _ | .misplaced _ => []

/-- The atoms of all formulas of a list. -/
def Formula.atomsOfAll : List Formula → List (Relation × List String)
  | [] => []
  | f :: fs => f.atoms ++ Formula.atomsOfAll fs

end

/-- The atoms of a clause. -/
def Clause.atoms : Clause → List (Relation × List String)
  | .constraint _ _ body => body.atoms
  | .unsupported _ | .misplaced _ => []

/-- A clause applies a predicate to `n` arguments. -/
def Clause.Uses (c : Clause) (p : Predicate) (n : Nat) : Prop :=
  ∃ args, (Relation.predicate p, args) ∈ c.atoms ∧ args.length = n

/-- No predicate is applied to different numbers of arguments. -/
def ArityAgrees (clauses : List Clause) : Prop :=
  ∀ p n n', (∃ c ∈ clauses, c.Uses p n) → (∃ c ∈ clauses, c.Uses p n') → n = n'

theorem atomsOfAll_eq_flatMap (fs : List Formula) :
    Formula.atomsOfAll fs = fs.flatMap Formula.atoms := by
  induction fs with
  | nil => simp only [Formula.atomsOfAll, List.flatMap_nil]
  | cons f fs ih => simp only [Formula.atomsOfAll, ih, List.flatMap_cons]

/-- Atoms of types use no predicate. -/
theorem predicate_notMem_atomsOfAll {α : Type} {p : Predicate} {args : List String} (xs : List α)
    (type var : α → String) :
    (.predicate p, args) ∉
      Formula.atomsOfAll (xs.map fun x => .atom (.type (type x)) [var x]) := by
  simp [atomsOfAll_eq_flatMap, Formula.atoms]

/-- An implication between a type and one application of a predicate uses the predicate once. -/
theorem uses_of_atoms {c : Clause} {p q : Predicate} {n : Nat} {args : List String}
    (h : ∀ p' args', (Relation.predicate p', args') ∈ c.atoms ↔ p' = q ∧ args' = args) :
    c.Uses p n ↔ p = q ∧ n = args.length := by
  simp only [Clause.Uses, h]
  constructor
  · rintro ⟨_, ⟨rfl, rfl⟩, rfl⟩
    exact ⟨rfl, rfl⟩
  · rintro ⟨rfl, rfl⟩
    exact ⟨args, ⟨rfl, rfl⟩, rfl⟩

end Rel

open RoleSchema.Rel (Predicate Relation Formula Clause ArityAgrees freshVariables)

/-! ## The uses in each kind of clause -/

theorem not_uses_manyOneClause {u : Id} {p q : Predicate} {n : Nat} :
    ¬ (manyOneClause u q).Uses p n := by
  rintro ⟨args, h, -⟩
  unfold manyOneClause at h
  split at h <;> simp [Clause.atoms, Formula.atoms] at h

namespace Model

variable {m : Model} {f : FactType} {p q : Predicate} {n : Nat}

theorem uses_containmentIn {role : Id} :
    (m.containmentIn q role).Uses p n ↔ p = q ∧ n = 1 := by
  have hatoms (p' : Predicate) (args' : List String) :
      (Relation.predicate p', args') ∈ (m.containmentIn q role).atoms ↔ p' = q ∧ args' = ["v"] := by
    simp [containmentIn, Clause.atoms, Formula.atoms]
  exact Rel.uses_of_atoms hatoms

theorem uses_typeClause : (m.typeClause q).Uses p n ↔ p = q ∧ n = q.roleIds.length := by
  have hvars : (freshVariables q.roleIds.length).length = q.roleIds.length := by
    simp [freshVariables]
  rw [← hvars]
  refine Rel.uses_of_atoms fun p' args' => ?_
  simp [typeClause, Clause.atoms, Formula.atoms, Rel.predicate_notMem_atomsOfAll]

theorem uses_mandatoryClause {c : MandatoryConstraint} {clause : Clause}
    (h : m.mandatoryClause c q = some clause) :
    clause.Uses p n ↔ p = q ∧ n = q.roleIds.length := by
  obtain ⟨role, -, rfl⟩ := Option.map_eq_some_iff.mp h
  have hargs : (q.roleIds.map fun r => if r == role then "v" else "_").length =
      q.roleIds.length := List.length_map _
  rw [← hargs]
  refine Rel.uses_of_atoms fun p' args' => ?_
  simp [Clause.atoms, Formula.atoms, Predicate.bindRole]

theorem isSome_mandatoryClause {c : MandatoryConstraint} :
    (∃ clause, m.mandatoryClause c q = some clause) ↔ ∃ role ∈ q.roleIds, role ∈ c.roleIds := by
  simp only [mandatoryClause, Option.map_eq_some_iff]
  rw [exists_comm]
  simp [Predicate.firstOccurrence, ← Option.isSome_iff_exists]

/-! ## The uses in all clauses of a fact type -/

/-- A mandatory constraint of the fact type covers a column of the relation. -/
def MandatoryIn (m : Model) (f : FactType) (p : Predicate) : Prop :=
  ∃ c ∈ m.mandatoryConstraintsOf f, ∃ role ∈ p.roleIds, role ∈ c.roleIds

theorem uses_wholeClausesOf :
    (∃ clause ∈ m.wholeClausesOf f q, clause.Uses p n) ↔
      p = q ∧ n = 1 ∧ m.isUnary q = true := by
  unfold wholeClausesOf
  split
  · next h =>
    obtain ⟨key, value, rest, hk, -, -⟩ := columns_of_isUnary h
    simp [hk, uses_containmentIn, h]
  · next h =>
    simp [not_uses_manyOneClause, h]

theorem uses_columnClausesOf :
    (∃ clause ∈ m.columnClausesOf f q, clause.Uses p n) ↔
      p = q ∧ n = q.roleIds.length ∧ (m.isUnary q = false ∨ m.MandatoryIn f q) := by
  have htype : (∃ clause ∈ if m.isUnary q then [] else [m.typeClause q], clause.Uses p n) ↔
      p = q ∧ n = q.roleIds.length ∧ m.isUnary q = false := by
    cases m.isUnary q with
    | true => simp
    | false => simp [uses_typeClause]
  have hmandatory : (∃ clause ∈ (m.mandatoryConstraintsOf f).filterMap
      (fun c => m.mandatoryClause c q), clause.Uses p n) ↔
      p = q ∧ n = q.roleIds.length ∧ m.MandatoryIn f q := by
    constructor
    · rintro ⟨clause, h, hu⟩
      obtain ⟨c, hc, hclause⟩ := List.mem_filterMap.mp h
      obtain ⟨hp, hn⟩ := (uses_mandatoryClause hclause).mp hu
      exact ⟨hp, hn, c, hc, isSome_mandatoryClause.mp ⟨clause, hclause⟩⟩
    · rintro ⟨hp, hn, c, hc, hcol⟩
      obtain ⟨clause, hclause⟩ := isSome_mandatoryClause.mpr hcol
      exact ⟨clause, List.mem_filterMap.mpr ⟨c, hc, hclause⟩,
        (uses_mandatoryClause hclause).mpr ⟨hp, hn⟩⟩
  simp only [columnClausesOf, List.mem_append, or_and_right, exists_or, htype, hmandatory]
  rw [← and_or_left, ← and_or_left]

/-- A relation that is a set is used with one argument by the clause about the whole of it, unless
the fact type is a reference mode; every other use has an argument for each column. -/
theorem uses_iff {relations : List Predicate} {whole clauses : List Clause}
    (h : (m.relationsAndClauses f).result = .ok (relations, whole))
    (hc : (m.factTypeClauses f).result = .ok clauses) :
    (∃ clause ∈ clauses, clause.Uses p n) ↔
      p ∈ relations ∧ (n = 1 ∧ m.isUnary p = true ∧ m.matchReferenceMode f = .ok none ∨
        n = p.roleIds.length ∧ (m.isUnary p = false ∨ m.MandatoryIn f p)) := by
  obtain ⟨relations', whole', h', rfl⟩ := factTypeClauses_eq_ok_iff.mp hc
  obtain ⟨rfl, rfl⟩ : relations = relations' ∧ whole = whole' := by
    simpa using h.symm.trans h'
  have hcolumns : (∃ clause ∈ relations.flatMap (m.columnClausesOf f), clause.Uses p n) ↔
      p ∈ relations ∧ n = p.roleIds.length ∧ (m.isUnary p = false ∨ m.MandatoryIn f p) := by
    simp only [List.mem_flatMap]
    constructor
    · rintro ⟨clause, ⟨q, hq, hclause⟩, hu⟩
      obtain ⟨rfl, hn⟩ := uses_columnClausesOf.mp ⟨clause, hclause, hu⟩
      exact ⟨hq, hn⟩
    · rintro ⟨hp, hn⟩
      obtain ⟨clause, hclause, hu⟩ := uses_columnClausesOf.mpr ⟨rfl, hn⟩
      exact ⟨clause, ⟨p, hp, hclause⟩, hu⟩
  have hwhole : (∃ clause ∈ whole, clause.Uses p n) ↔
      p ∈ relations ∧ n = 1 ∧ m.isUnary p = true ∧ m.matchReferenceMode f = .ok none := by
    rcases relationsAndClauses_eq_ok h with ⟨r, rel, hm, -, -, rfl⟩ | ⟨hm, -, rfl⟩
    · simp [not_uses_manyOneClause, hm]
    · simp only [List.mem_flatMap, hm, and_true]
      constructor
      · rintro ⟨clause, ⟨q, hq, hclause⟩, hu⟩
        obtain ⟨rfl, hn⟩ := uses_wholeClausesOf.mp ⟨clause, hclause, hu⟩
        exact ⟨hq, hn⟩
      · rintro ⟨hp, hn⟩
        obtain ⟨clause, hclause, hu⟩ := uses_wholeClausesOf.mpr ⟨rfl, hn⟩
        exact ⟨clause, ⟨p, hp, hclause⟩, hu⟩
  simp only [List.mem_append, or_and_right, exists_or, hwhole, hcolumns]
  rw [← and_or_left]

/-- **When arities agree.** No relation is used at two arities exactly if no mandatory constraint
covers a column of a relation that is a set; the relations of a reference mode always agree. -/
theorem arityAgrees_iff {relations : List Predicate} {whole clauses : List Clause}
    (h : (m.relationsAndClauses f).result = .ok (relations, whole))
    (hc : (m.factTypeClauses f).result = .ok clauses) :
    ArityAgrees clauses ↔ (m.matchReferenceMode f = .ok none → ∀ p ∈ relations,
      m.isUnary p = true → ∀ c ∈ m.mandatoryConstraintsOf f, ∀ role ∈ p.roleIds,
        role ∉ c.roleIds) := by
  constructor
  · intro hagree hm p hp hunary c hmc role hr hrc
    have hone := (uses_iff h hc).mpr ⟨hp, Or.inl ⟨rfl, hunary, hm⟩⟩
    have hall := (uses_iff h hc).mpr ⟨hp, Or.inr ⟨rfl, Or.inr ⟨c, hmc, role, hr, hrc⟩⟩⟩
    have hlen := hagree p _ _ hone hall
    obtain ⟨key, value, rest, hk, hv, -⟩ := columns_of_isUnary hunary
    simp [Predicate.roleIds, hk, hv] at hlen
  · intro hcond p n n' hn hn'
    obtain ⟨hp, hn⟩ := (uses_iff h hc).mp hn
    obtain ⟨-, hn'⟩ := (uses_iff h hc).mp hn'
    -- a use of each kind would need a set with a mandatory column
    have hmixed (hm : m.matchReferenceMode f = .ok none) (hunary : m.isUnary p = true) :
        ¬ (m.isUnary p = false ∨ m.MandatoryIn f p) := by
      rintro (hf | ⟨c, hmc, role, hr, hrc⟩)
      · rw [hunary] at hf
        cases hf
      · exact hcond hm p hp hunary c hmc role hr hrc
    rcases hn with ⟨rfl, hunary, hm⟩ | ⟨rfl, hmode⟩
    · rcases hn' with ⟨rfl, -, -⟩ | ⟨-, hmode⟩
      · rfl
      · exact absurd hmode (hmixed hm hunary)
    · rcases hn' with ⟨-, hunary, hm⟩ | ⟨rfl, -⟩
      · exact absurd hmode (hmixed hm hunary)
      · rfl

end Model

/-! ## Cancelled and postponed events -/

namespace Cancellations

/-- Every event is cancelled. -/
def cancelled : FactType where
  id := some "cancelled"
  name := "EventIsCancelled"
  roles := [{ id := some "which", factTypeId := some "cancelled", playerId := some "event" },
    { id := some "whether", factTypeId := some "cancelled", playerId := some "yes" }]
  uniquenessIds := [some "once cancelled"]
  mandatoryIds := [some "all cancelled"]

/-- Some events are postponed. -/
def postponed : FactType where
  id := some "postponed"
  name := "EventIsPostponed"
  roles := [{ id := some "what", factTypeId := some "postponed", playerId := some "event" },
    { id := some "so", factTypeId := some "postponed", playerId := some "yes" }]
  uniquenessIds := [some "once postponed"]

def model : Model where
  objects := [{ id := some "event", name := "Event", kind := .entity },
    { id := some "yes", name := "Yes", kind := .value, isImplicitBoolean := true }]
  factTypes := [cancelled, postponed]
  uniquenessConstraints := [{ id := some "once cancelled", roleIds := [some "which"] },
    { id := some "once postponed", roleIds := [some "what"] }]
  mandatoryConstraints := [{ id := some "all cancelled", roleIds := [some "which"] }]

/-- The set of cancelled events. -/
def cancelledSet : Predicate :=
  ⟨"event_is_cancelled", some "once cancelled", [some "which"], [some "whether"]⟩

/-- The set of postponed events. -/
def postponedSet : Predicate :=
  ⟨"event_is_postponed", some "once postponed", [some "what"], [some "so"]⟩

theorem relationsAndClauses_postponed : (model.relationsAndClauses postponed).result =
    .ok ([postponedSet], [model.containmentIn postponedSet (some "what")]) := by
  rfl

theorem factTypeClauses_postponed : (model.factTypeClauses postponed).result =
    .ok [model.containmentIn postponedSet (some "what")] := by
  rfl

/-- The set of postponed events is used with one argument only. -/
theorem arityAgrees_iff_postponed :
    (model.relationsAndClauses postponed).result =
        .ok ([postponedSet], [model.containmentIn postponedSet (some "what")]) ∧
      (model.factTypeClauses postponed).result =
        .ok [model.containmentIn postponedSet (some "what")] ∧
      model.isUnary postponedSet = true ∧
      (ArityAgrees [model.containmentIn postponedSet (some "what")] ↔
        (model.matchReferenceMode postponed = .ok none → ∀ p ∈ [postponedSet],
          model.isUnary p = true → ∀ c ∈ model.mandatoryConstraintsOf postponed,
            ∀ role ∈ p.roleIds, role ∉ c.roleIds)) :=
  ⟨relationsAndClauses_postponed, factTypeClauses_postponed, rfl,
    Model.arityAgrees_iff relationsAndClauses_postponed factTypeClauses_postponed⟩

/-- The set of cancelled events is contained in the events with one argument, and every event is in
it with two. -/
theorem arity_differs_on_mandatory :
    cancelled.roleIds.Nodup ∧
      ∃ clauses, (model.factTypeClauses cancelled).result = .ok clauses ∧
        ¬ ArityAgrees clauses ∧
        (∃ c ∈ clauses, (Relation.predicate cancelledSet, ["v"]) ∈ c.atoms) ∧
        ∃ c ∈ clauses, (Relation.predicate cancelledSet, ["v", "_"]) ∈ c.atoms := by
  have hc : (model.factTypeClauses cancelled).result =
      .ok [model.containmentIn cancelledSet (some "which"),
        .constraint "event_mandatory_in_event_is_cancelled" ["v"]
          (.implies (.atom (.type "Event") ["v"])
            (.atom (.predicate cancelledSet) ["v", "_"]))] := by
    rfl
  refine ⟨by decide, _, hc, fun h => ?_, ⟨_, .head _, .head _⟩, ⟨_, .tail _ (.head _), ?_⟩⟩
  · have hone : (model.containmentIn cancelledSet (some "which")).Uses cancelledSet 1 :=
      Model.uses_containmentIn.mpr ⟨rfl, rfl⟩
    have hboth := h cancelledSet 1 2 ⟨_, .head _, hone⟩
      ⟨_, .tail _ (.head _), ["v", "_"], .tail _ (.head _), rfl⟩
    cases hboth
  · exact .tail _ (.head _)

end Cancellations

end RoleSchema
