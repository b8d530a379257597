import RoleSchema.Proofs.Relation.Arity
import RoleSchema.Proofs.Relation.Labelling
import Mathlib.Data.List.Forall2

/-!
# The clauses of a reference mode

A reference mode has two relations, from the entity type to its identifier and back. The one leads
where the other comes from, so that both are functions, each for the uniqueness constraint over its
own key. What is mandatory for the fact type is said of both relations: as each has a column for
every role, no mandatory constraint over any role goes without a clause.

* `Model.MandatoryGroup`: the clauses of mandatory constraints on one of the relations.
* `Model.ExpressedBy`: all clauses, in order.
* `clauses_of_reference_mode`: a fact type that is recognised as a reference mode, and whose clauses
  can be formed, is expressed by them.
-/

namespace RoleSchema

open RoleSchema.Rel (Predicate Formula Clause)

/-- What a partial function gives on a list comes, in order, of the elements on which it gives
anything. -/
theorem forall₂_filter_filterMap {α β : Type} {g : α → Option β} {keep : α → Bool} {xs : List α}
    (h : ∀ x ∈ xs, keep x = (g x).isSome) :
    List.Forall₂ (fun x y => g x = some y) (xs.filter keep) (xs.filterMap g) := by
  induction xs with
  | nil => exact .nil
  | cons x xs ih =>
    obtain ⟨hx, hxs⟩ := List.forall_mem_cons.mp h
    cases hg : g x with
    | none =>
      rw [hg] at hx
      rw [List.filter_cons_of_neg (by simp [hx]), List.filterMap_cons_none hg]
      exact ih hxs
    | some y =>
      rw [hg] at hx
      rw [List.filter_cons_of_pos (by simp [hx]), List.filterMap_cons_some hg]
      exact .cons hg (ih hxs)

/-- The clause that a relation is a function. -/
def Rel.Predicate.functionClause (p : Predicate) : Clause :=
  .constraint (p.name ++ "_many_one") [] (.function (.predicate p))

/-- The clause that every instance of an entity type occurs in the columns of a role. -/
def Rel.Predicate.occurrenceClause (p : Predicate) (entity : ObjectType) (role : Id) : Clause :=
  .constraint (Text.lower entity.name ++ "_mandatory_in_" ++ p.name) ["v"]
    (.implies (.atom (.type entity.name) ["v"]) (p.bindRole role "v"))

namespace Model

/-- The clauses of mandatory constraints on a relation of a reference mode: one for each listed
constraint that spans any role, in order, and among them the clause that every instance of the
entity type occurs in the column of its role. -/
structure MandatoryGroup (m : Model) (f : FactType) (r : ReferenceMode) (p : Predicate)
    (group : List Clause) : Prop where
  each : List.Forall₂ (fun c clause => m.mandatoryClause c p = some clause)
    ((m.mandatoryConstraintsOf f).filter fun c => !c.roleIds.isEmpty) group
  binds : p.occurrenceClause r.entity r.entityRole.id ∈ group

/-- A relation bears the id of a uniqueness constraint, and its key consists of the roles of that
constraint, in order. -/
def KeyedAs (m : Model) (p : Predicate) (id : Id) : Prop :=
  p.uniqueness = id ∧ ∃ u, m.uniquenessById id = some u ∧ p.key = u.roleIds

/-- The clauses that express a fact type which is a reference mode with the relations `rel`. -/
structure ExpressedBy (m : Model) (f : FactType) (r : ReferenceMode)
    (rel : ReferenceModeRelations) (clauses : List Clause) : Prop where
  /-- Both relations are functions, the inverse one first. Then follow the types and the mandatory
  constraints, those of the forward relation first. -/
  order : ∃ forward inverse,
    m.MandatoryGroup f r rel.forward forward ∧ m.MandatoryGroup f r rel.inverse inverse ∧
      clauses = [rel.inverse.functionClause, rel.forward.functionClause] ++
        m.typeClause rel.forward :: forward ++ m.typeClause rel.inverse :: inverse
  supported : ∀ message, .unsupported message ∉ clauses
  /-- Neither relation, nor any other, is said to be a set. -/
  no_set : ∀ p role, m.containmentIn p role ∉ clauses
  forward_value : rel.forward.value = rel.inverse.key
  inverse_value : rel.inverse.value = rel.forward.key
  forward_key : m.KeyedAs rel.forward r.entityUniqueness
  inverse_key : m.KeyedAs rel.inverse r.identifierUniqueness

variable {m : Model} {f : FactType} {l : Labelling} {p : Predicate}

/-! ## Clauses about columns -/

theorem manyOneClause_self (p : Predicate) : manyOneClause p.uniqueness p = p.functionClause := by
  simp [manyOneClause, Predicate.functionClause]

/-- A relation is no set if no column of its value only says that the fact holds. -/
theorem isUnary_eq_false (h : ∀ role ∈ p.value, m.isImplicitBoolean role = false) :
    m.isUnary p = false := by
  by_contra hunary
  rw [Bool.not_eq_false] at hunary
  obtain ⟨-, value, rest, -, hvalue, hboolean⟩ := columns_of_isUnary hunary
  have hfalse := h value (hvalue ▸ List.mem_cons_self ..)
  rw [hboolean] at hfalse
  cases hfalse

theorem mem_columnClausesOf {clause : Clause} (h : clause ∈ m.columnClausesOf f p) :
    clause = m.typeClause p ∨
      ∃ c ∈ m.mandatoryConstraintsOf f, m.mandatoryClause c p = some clause := by
  rcases List.mem_append.mp h with h | h
  · split at h
    · cases h
    · exact Or.inl (List.mem_singleton.mp h)
  · exact Or.inr (List.mem_filterMap.mp h)

theorem unsupported_notMem_columnClausesOf {message : String} :
    .unsupported message ∉ m.columnClausesOf f p := by
  intro h
  rcases mem_columnClausesOf h with htype | ⟨c, -, hc⟩
  · cases htype
  · obtain ⟨role, -, hrole⟩ := Option.map_eq_some_iff.mp hc
    cases hrole

/-- That a relation is a set is not said in a clause about columns. -/
theorem containmentIn_notMem_columnClausesOf {q : Predicate} {role : Id} :
    m.containmentIn q role ∉ m.columnClausesOf f p := by
  intro h
  rcases mem_columnClausesOf h with htype | ⟨c, -, hc⟩
  · simp [containmentIn, typeClause] at htype
  · obtain ⟨role', -, hrole⟩ := Option.map_eq_some_iff.mp hc
    simp [containmentIn] at hrole

/-- A clause that neither says that a relation is a function nor is about columns is none of a
reference mode. -/
theorem notMem_modeClauses {clause : Clause} {p q : Predicate}
    (hfunction : ∀ p : Predicate, clause ≠ p.functionClause)
    (hcolumns : ∀ p, clause ∉ m.columnClausesOf f p) :
    clause ∉ [q.functionClause, p.functionClause] ++ [p, q].flatMap (m.columnClausesOf f) := by
  intro h
  rcases List.mem_append.mp h with h | h
  · rcases List.mem_pair.mp h with h | h
    · exact hfunction q h
    · exact hfunction p h
  · obtain ⟨r, -, h⟩ := List.mem_flatMap.mp h
    exact hcolumns r h

/-- A constraint over one role has the clause that the instances of its player occur there. -/
theorem mandatoryClause_of_roleIds {c : MandatoryConstraint} {entity : ObjectType} {role : Id}
    (hspans : c.roleIds = [role]) (hcolumn : role ∈ p.roleIds)
    (hplays : m.entityThatPlays role = some entity) :
    m.mandatoryClause c p = some (p.occurrenceClause entity role) := by
  have hsome : (p.firstOccurrence c.roleIds).isSome := by
    rw [Predicate.firstOccurrence, List.find?_isSome]
    exact ⟨role, hcolumn, by simp [hspans]⟩
  obtain ⟨first, hfirst⟩ := Option.isSome_iff_exists.mp hsome
  obtain rfl : first = role := by simpa [hspans] using List.find?_some hfirst
  rw [mandatoryClause, hfirst, Option.map_some, roleType_of_entityThatPlays hplays,
    Predicate.occurrenceClause]

/-! ## The relations of labelled parts -/

/-- On a relation with a column for every role, each constraint over any role has a clause. -/
theorem Labels.mandatoryGroup (h : m.Labels f l) (hf : m.ConstraintsWithin f)
    (hcolumns : p.roleIds.Perm f.roleIds) :
    m.MandatoryGroup f l.mode p
      ((m.mandatoryConstraintsOf f).filterMap fun c => m.mandatoryClause c p) where
  each := by
    refine forall₂_filter_filterMap fun c hc => ?_
    obtain ⟨id, hid, hfound⟩ := List.mem_filterMap.mp hc
    obtain ⟨c', hfound', hwithin⟩ := hf.mandatory id hid
    obtain rfl : c' = c := Option.some.inj (hfound'.symm.trans hfound)
    rw [Bool.eq_iff_iff, Option.isSome_iff_exists, isSome_mandatoryClause]
    constructor
    · intro hspans
      obtain ⟨role, hrole⟩ := List.exists_mem_of_ne_nil c'.roleIds (by simpa using hspans)
      exact ⟨role, hcolumns.mem_iff.mpr (hwithin hrole), hrole⟩
    · rintro ⟨role, -, hrole⟩
      simpa using List.ne_nil_of_mem hrole
  binds := by
    obtain ⟨c, hc, hspans⟩ := h.mandatory
    have hcolumn : l.e.id ∈ p.roleIds := hcolumns.mem_iff.mpr (List.mem_map_of_mem h.e_mem)
    exact List.mem_filterMap.mpr ⟨c, hc, mandatoryClause_of_roleIds hspans hcolumn h.plays⟩

/-- Where no role only says that the fact holds, the clauses about the columns of a relation begin
with that of their types. -/
theorem columnClausesOf_eq_cons (hcolumns : p.roleIds.Perm f.roleIds)
    (hboolean : ∀ role ∈ f.roleIds, m.isImplicitBoolean role = false) :
    m.columnClausesOf f p = m.typeClause p ::
      (m.mandatoryConstraintsOf f).filterMap fun c => m.mandatoryClause c p := by
  have hunary : m.isUnary p = false := by
    refine isUnary_eq_false fun role hrole => hboolean role (hcolumns.mem_iff.mp ?_)
    exact List.mem_append_right _ hrole
  rw [columnClausesOf, hunary]
  rfl

/-- The relations of labelled parts: the key of each is the role of the one part and its value that
of the other. -/
theorem relations_of_mode {rel : ReferenceModeRelations}
    (h : m.referenceModeRelations l.mode = .ok rel) :
    ∃ forward inverse, rel.forward = ⟨forward, l.w.id, [l.e.id], [l.i.id]⟩ ∧
      rel.inverse = ⟨inverse, l.u.id, [l.i.id], [l.e.id]⟩ := by
  obtain ⟨i, forward, inverse, hi, hforward, hinverse⟩ := relations_of_referenceMode h
  obtain rfl : l.i = i := Option.some.inj hi
  exact ⟨forward, inverse, hforward, hinverse⟩

theorem Labels.expressedBy (h : m.Labels f l) (hf : m.ConstraintsWithin f)
    (hboolean : ∀ role ∈ f.roleIds, m.isImplicitBoolean role = false)
    {rel : ReferenceModeRelations} (hrel : m.referenceModeRelations l.mode = .ok rel) :
    m.ExpressedBy f l.mode rel ([manyOneClause l.u.id rel.inverse,
      manyOneClause l.w.id rel.forward] ++ [rel.forward, rel.inverse].flatMap
        (m.columnClausesOf f)) := by
  obtain ⟨forward, inverse, hforward, hinverse⟩ := relations_of_mode hrel
  have hroles : f.roleIds.Perm [l.e.id, l.i.id] := h.roles.map Role.id
  have hcolumns : rel.forward.roleIds.Perm f.roleIds := by
    rw [hforward]
    exact hroles.symm
  have hcolumns' : rel.inverse.roleIds.Perm f.roleIds := by
    rw [hinverse]
    exact (List.Perm.swap _ _ _).trans hroles.symm
  have hfunction : manyOneClause l.w.id rel.forward = rel.forward.functionClause := by
    rw [← manyOneClause_self, hforward]
  have hfunction' : manyOneClause l.u.id rel.inverse = rel.inverse.functionClause := by
    rw [← manyOneClause_self, hinverse]
  rw [hfunction, hfunction']
  exact
    { order := by
        refine ⟨_, _, h.mandatoryGroup hf hcolumns, h.mandatoryGroup hf hcolumns', ?_⟩
        simp [columnClausesOf_eq_cons hcolumns hboolean, columnClausesOf_eq_cons hcolumns' hboolean]
      supported := by
        intro message
        refine notMem_modeClauses (fun p hp => ?_) fun _ => unsupported_notMem_columnClausesOf
        cases hp
      no_set := by
        intro q role
        refine notMem_modeClauses (fun p hp => ?_) fun _ => containmentIn_notMem_columnClausesOf
        simp [containmentIn, Predicate.functionClause] at hp
      forward_value := by rw [hforward, hinverse]
      inverse_value := by rw [hforward, hinverse]
      forward_key := by
        rw [hforward]
        exact ⟨rfl, l.w, (uniquenessById_of_mem h.w_mem).2, h.other_spans.symm⟩
      inverse_key := by
        rw [hinverse]
        exact ⟨rfl, l.u, (uniquenessById_of_mem h.u_mem).2, h.identifier_spans.symm⟩ }

/-- **The clauses of a reference mode.** Where no id is that of two constraints, take a fact type
that is recognised as a reference mode, whose roles have different ids and are played by no type
that only says that a fact holds, and whose constraints are found and span no roles but its own. If
its clauses can be formed, they express the reference mode with its two relations. -/
theorem clauses_of_reference_mode {r : ReferenceMode} {clauses : List Clause}
    (hids : m.constraintIds.Nodup) (hmatch : m.matchReferenceMode f = .ok (some r))
    (hf : m.ConstraintsWithin f) (hroles : f.RolesIdentified)
    (hboolean : ∀ role ∈ f.roleIds, m.isImplicitBoolean role = false)
    (h : (m.factTypeClauses f).result = .ok clauses) :
    ∃ rel, m.referenceModeRelations r = .ok rel ∧ m.ExpressedBy f r rel clauses := by
  obtain ⟨l, hl, rfl⟩ := labels_of_match hids hroles hf hmatch
  obtain ⟨relations, whole, hw, rfl⟩ := factTypeClauses_eq_ok_iff.mp h
  rcases relationsAndClauses_eq_ok hw with ⟨r, rel, hm, hrel, rfl, rfl⟩ | ⟨hnone, -, -⟩
  · obtain rfl : l.mode = r := by simpa using hmatch.symm.trans hm
    exact ⟨rel, hrel, hl.expressedBy hf hboolean hrel⟩
  · rw [hmatch] at hnone
    cases hnone

end Model

/-! ## Countries and their codes -/

namespace Countries

def country : ObjectType :=
  { id := some "country", name := "Country", kind := .entity, referenceMode := "code",
    preferredIdentifier := some "one country" }

/-- The role of the code. -/
def codeRole : Role := { id := some "of", factTypeId := some "coded", playerId := some "code" }

/-- The role of the country. -/
def countryRole : Role :=
  { id := some "has", factTypeId := some "coded", playerId := some "country" }

/-- Every country has a code, by which it is identified, and every code is that of a country. -/
def coded : FactType where
  id := some "coded"
  name := "CountryHasCountryCode"
  roles := [codeRole, countryRole]
  uniquenessIds := [some "one code", some "one country"]
  mandatoryIds := [some "nothing", some "all used", some "all coded"]

def model : Model where
  objects := [country,
    { id := some "code", name := "CountryCode", kind := .value, dataType := some "text" }]
  factTypes := [coded]
  uniquenessConstraints := [{ id := some "one code", roleIds := [some "has"] },
    { id := some "one country", roleIds := [some "of"] }]
  mandatoryConstraints := [{ id := some "nothing", roleIds := [] },
    { id := some "all used", roleIds := [some "of", some "has"] },
    { id := some "all coded", roleIds := [some "has"] }]
  dataTypes := [{ id := some "text", kind := "VariableLengthTextDataType" }]

/-- Countries are identified by their codes. -/
def codes : ReferenceMode where
  entity := country
  entityRole := countryRole
  identifierRole := some codeRole
  entityUniqueness := some "one code"
  identifierUniqueness := some "one country"

/-- From countries to their codes. -/
def codeOf : Predicate := ⟨"country_code", some "one code", [some "has"], [some "of"]⟩

/-- From codes to their countries. -/
def countryOf : Predicate := ⟨"code_to_country", some "one country", [some "of"], [some "has"]⟩

/-- The clauses on countries and their codes. -/
def clauses : List Clause :=
  [countryOf.functionClause, codeOf.functionClause,
    model.typeClause codeOf,
    codeOf.occurrenceClause country (some "has"),
    codeOf.occurrenceClause country (some "has"),
    model.typeClause countryOf,
    .constraint "string_mandatory_in_code_to_country" ["v"]
      (.implies (.atom (.type "String") ["v"]) (countryOf.bindRole (some "of") "v")),
    countryOf.occurrenceClause country (some "has")]

theorem constraintsWithin : model.ConstraintsWithin coded where
  uniqueness := by
    intro id hid
    rcases List.mem_pair.mp hid with rfl | rfl
    · exact ⟨_, rfl, by decide⟩
    · exact ⟨_, rfl, by decide⟩
  mandatory := by
    intro id hid
    rcases List.mem_cons.mp hid with rfl | hid
    · exact ⟨_, rfl, by decide⟩
    · rcases List.mem_pair.mp hid with rfl | rfl
      · exact ⟨_, rfl, by decide⟩
      · exact ⟨_, rfl, by decide⟩

/-- The constraint over no role is passed over, and the one over both roles has a different clause
on each relation. -/
theorem clauses_of_reference_mode_coded :
    model.constraintIds.Nodup ∧ model.matchReferenceMode coded = .ok (some codes) ∧
      model.ConstraintsWithin coded ∧ coded.RolesIdentified ∧
      (∀ role ∈ coded.roleIds, model.isImplicitBoolean role = false) ∧
      (model.factTypeClauses coded).result = .ok clauses ∧
      ∃ rel, model.referenceModeRelations codes = .ok rel ∧
        model.ExpressedBy coded codes rel clauses := by
  have hids : model.constraintIds.Nodup := by decide
  have hmatch : model.matchReferenceMode coded = .ok (some codes) := rfl
  have hroles : coded.RolesIdentified := ⟨by decide, by decide⟩
  have hboolean : ∀ role ∈ coded.roleIds, model.isImplicitBoolean role = false := by decide
  have hclauses : (model.factTypeClauses coded).result = .ok clauses := rfl
  exact ⟨hids, hmatch, constraintsWithin, hroles, hboolean, hclauses,
    Model.clauses_of_reference_mode hids hmatch constraintsWithin hroles hboolean hclauses⟩

end Countries

end RoleSchema
