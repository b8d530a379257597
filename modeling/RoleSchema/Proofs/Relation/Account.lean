import RoleSchema.Proofs.Relation.Columns
import RoleSchema.Proofs.Relation.ModeClauses

/-!
# The account of a fact type

What is generated from a fact type that is no reference mode can be put down relation by relation.
A set has the clause that it is contained in the type of its key. Any other relation has a clause
for each uniqueness constraint, of which one says that it is a function and the others that
something is missing, and a clause on the types of its columns. Each mandatory constraint has either
a clause on the relation or a warning. There are no other clauses, and no other such warnings.

* `Model.Settles`: what a mandatory constraint gives on a relation.
* `Model.AccountsFor`: all that a relation gives.
* `Model.factTypeClauses_accounted`: the clauses and the findings of a fact type, in order.
-/

namespace RoleSchema

open RoleSchema.Rel (Predicate Clause)

/-- The message that a uniqueness constraint on a relation is not expressed. -/
def Rel.Predicate.missingClause (p : Predicate) : Clause :=
  .unsupported ("TBD: Many to one constraint for non-generating uniqueness constraint " ++
    "of relation " ++ p.name)

/-- What a relation gives: clauses about it as a whole, a clause on the types of its columns, and
for each mandatory constraint a clause or a finding. -/
structure Account where
  whole : List Clause
  types : List Clause
  mandatory : List (Clause ⊕ Diagnostic)

namespace Account

/-- The clauses about the columns of the relation. -/
def columns (a : Account) : List Clause := a.types ++ a.mandatory.filterMap Sum.getLeft?

/-- The findings about the relation. -/
def findings (a : Account) : List Diagnostic := a.mandatory.filterMap Sum.getRight?

end Account

/-- The code of the warning that a mandatory constraint covers no column. -/
def unboundCode : String := "unbound-mandatory-role"

namespace Model

variable (m : Model) (f : FactType)

/-- The clause that every instance of the type of a role occurs in its column. -/
def occurrenceIn (p : Predicate) (role : Id) : Clause :=
  .constraint (Text.lower (m.roleType role) ++ "_mandatory_in_" ++ p.name) ["v"]
    (.implies (.atom (.type (m.roleType role)) ["v"]) (p.bindRole role "v"))

/-- A mandatory constraint has a clause for the first column that it covers, and a warning if it
covers none. -/
inductive Settles (p : Predicate) (c : MandatoryConstraint) : Clause ⊕ Diagnostic → Prop
  | bound {before after : List Id} {role : Id} (hcolumns : p.roleIds = before ++ role :: after)
      (hbefore : ∀ r ∈ before, r ∉ c.roleIds) (hrole : role ∈ c.roleIds) :
      Settles p c (.inl (m.occurrenceIn p role))
  | unbound (hnone : ∀ r ∈ p.roleIds, r ∉ c.roleIds) :
      Settles p c (.inr (.unboundMandatoryRole f c p))

/-- The account of a relation of a fact type. -/
structure AccountsFor (p : Predicate) (a : Account) : Prop where
  /-- A set is contained in the type of its key, and nothing else is said about it as a whole. -/
  set : m.isUnary p = true →
    ∃ key, p.key = [key] ∧ a.whole = [m.containmentIn p key] ∧ a.types = []
  /-- Any other relation is a function for the constraint over its key; for each other uniqueness
  constraint, before or after that, something is missing. Its columns have types. -/
  function : m.isUnary p = false → ∃ before after,
    f.uniquenessIds = before ++ p.uniqueness :: after ∧
    p.uniqueness ∉ before ∧ p.uniqueness ∉ after ∧
    a.whole = before.map (fun _ => p.missingClause) ++
      p.functionClause :: after.map (fun _ => p.missingClause) ∧
    a.types = [m.typeClause p]
  mandatory : List.Forall₂ (m.Settles f p) (m.mandatoryConstraintsOf f) a.mandatory

/-- What a mandatory constraint gives on a relation. -/
def settlement (p : Predicate) (c : MandatoryConstraint) : Clause ⊕ Diagnostic :=
  match m.mandatoryClause c p with
  | some clause => .inl clause
  | none => .inr (.unboundMandatoryRole f c p)

/-- What a relation gives. -/
def accountOf (p : Predicate) : Account where
  whole := m.wholeClausesOf f p
  types := if m.isUnary p then [] else [m.typeClause p]
  mandatory := (m.mandatoryConstraintsOf f).map (m.settlement f p)

variable {m f} {p : Predicate}

/-! ## What is found -/

theorem getLeft?_settlement (c : MandatoryConstraint) :
    (m.settlement f p c).getLeft? = m.mandatoryClause c p := by
  unfold settlement
  split
  · next clause h => rw [h]; rfl
  · next h => rw [h]; rfl

theorem columns_accountOf : (m.accountOf f p).columns = m.columnClausesOf f p := by
  simp only [Account.columns, accountOf, columnClausesOf, List.filterMap_map, Function.comp_def,
    getLeft?_settlement]

theorem diagnostics_mandatoryClauses (constraints : List MandatoryConstraint) :
    (m.mandatoryClauses f p constraints).diagnostics =
      (constraints.map (m.settlement f p)).filterMap Sum.getRight? := by
  induction constraints with
  | nil => rfl
  | cons c rest ih =>
    have hrest (first : List Clause) :
        (m.mandatoryClauses f p rest >>= fun others => pure (first ++ others)).diagnostics =
          (rest.map (m.settlement f p)).filterMap Sum.getRight? := by
      rw [Reporting.diagnostics_bind_pure, ih]
    rw [List.map_cons, List.filterMap_cons]
    unfold mandatoryClauses
    rw [settlement]
    cases m.mandatoryClause c p with
    | some clause => exact hrest [clause]
    | none =>
      have hfound := congrArg (Diagnostic.unboundMandatoryRole f c p :: ·) (hrest [])
      exact hfound

theorem diagnostics_columnClauses (relations : List Predicate) :
    (m.columnClauses f relations).diagnostics =
      relations.flatMap fun p => (m.accountOf f p).findings := by
  induction relations with
  | nil => rfl
  | cons p rest ih =>
    unfold columnClauses
    rw [Reporting.diagnostics_bind_of_ok (result_mandatoryClauses p _),
      Reporting.diagnostics_bind_pure, diagnostics_mandatoryClauses, ih, List.flatMap_cons]
    rfl

/-- Where a fact type is no reference mode, the findings about its mandatory constraints come after
those about its relations. -/
theorem diagnostics_factTypeClauses (h : m.matchReferenceMode f = .ok none)
    {relations : List Predicate} (hr : (m.relationsFor f).result = .ok relations) :
    (m.factTypeClauses f).diagnostics = (m.relationsFor f).diagnostics ++
      relations.flatMap fun p => (m.accountOf f p).findings := by
  have hclauses : (m.relationsAndClauses f).result =
      .ok (relations, relations.flatMap (m.wholeClausesOf f)) := by
    rw [result_relationsAndClauses_of_none h, hr]
    rfl
  have hfindings : (m.relationsAndClauses f).diagnostics = (m.relationsFor f).diagnostics := by
    unfold relationsAndClauses
    rw [h, Reporting.diagnostics_bind_of_ok rfl, Reporting.diagnostics_bind_of_ok hr]
    simp only [mapM_of_ok fun p _ => relationClauses_eq p]
    exact List.append_nil _
  unfold factTypeClauses
  rw [Reporting.diagnostics_bind_of_ok hclauses, Reporting.diagnostics_bind_pure,
    diagnostics_columnClauses, hfindings]

/-- What is found about the relations of a fact type is not about its mandatory constraints. -/
theorem code_relationsFor :
    (m.relationsFor f).Finds fun d => d.code ≠ unboundCode := by
  intro d hd
  rcases finding_of_relationsFor hd with ⟨r, rfl⟩ | rfl | rfl
  · simp [Diagnostic.unkeyedNamedRole, unboundCode]
  · simp [Diagnostic.missingUniqueness, unboundCode]
  · simp [Diagnostic.ambiguousFactType, unboundCode]

/-! ## What a relation gives -/

theorem settles_settlement (c : MandatoryConstraint) : m.Settles f p c (m.settlement f p c) := by
  unfold settlement
  split
  · next clause h =>
    obtain ⟨role, hrole, rfl⟩ := Option.map_eq_some_iff.mp h
    obtain ⟨hcovered, before, after, hcolumns, hbefore⟩ := List.find?_eq_some_iff_append.mp hrole
    exact .bound hcolumns (by simpa using hbefore) (by simpa using hcovered)
  · next h => exact .unbound (mandatoryClause_eq_none_iff.mp h)

/-- A relation is generated from a uniqueness constraint that the fact type lists. -/
theorem Gives.uniqueness_mem (h : m.Gives f p) : p.uniqueness ∈ f.uniquenessIds := by
  cases h with
  | forward name hr hi => exact hr.entityUniqueness_mem
  | inverse name hr hi => exact hr.identifier_mem
  | named hr hu => exact (uniquenessById_of_mem (uniquenessExcludingRole_eq_some hu).1).1
  | whole name hu => exact (uniquenessById_of_mem (hu ▸ List.mem_singleton.mpr rfl)).1

theorem map_manyOneClause {ids : List Id} (h : p.uniqueness ∉ ids) :
    ids.map (fun u => manyOneClause u p) = ids.map fun _ => p.missingClause := by
  refine List.map_congr_left fun u hu => ?_
  have hne : p.uniqueness ≠ u := fun heq => h (heq ▸ hu)
  rw [manyOneClause, if_neg (by simpa using hne), Predicate.missingClause]

theorem accountsFor_accountOf (hp : m.Gives f p) (hdiffer : f.uniquenessIds.Nodup) :
    m.AccountsFor f p (m.accountOf f p) where
  set h := by
    obtain ⟨key, -, -, hk, -⟩ := columns_of_isUnary h
    refine ⟨key, hk, ?_, ?_⟩
    · simp [accountOf, wholeClausesOf, h, hk]
    · simp [accountOf, h]
  function h := by
    obtain ⟨before, after, hids⟩ := List.append_of_mem hp.uniqueness_mem
    rw [hids] at hdiffer
    obtain ⟨-, hafter, hacross⟩ := List.nodup_append.mp hdiffer
    have hbefore : p.uniqueness ∉ before := fun hmem => hacross _ hmem _ (List.mem_cons_self ..) rfl
    have hafter := (List.nodup_cons.mp hafter).1
    refine ⟨before, after, hids, hbefore, hafter, ?_, ?_⟩
    · simp only [accountOf, wholeClausesOf, h, hids, List.map_append, List.map_cons,
        map_manyOneClause hbefore, map_manyOneClause hafter, manyOneClause_self]
      rfl
    · simp [accountOf, h]
  mandatory := by
    rw [accountOf, List.forall₂_map_right_iff]
    exact List.forall₂_same.mpr fun c _ => settles_settlement c

/-- **Every constraint is accounted for.** If a fact type that is no reference mode lists no
uniqueness constraint twice and has clauses, then each of its relations has an account. The clauses
are those of the accounts, first those about whole relations and then those about columns, and after
what is found about its relations are found the warnings of the accounts. -/
theorem factTypeClauses_accounted (hmode : m.matchReferenceMode f = .ok none)
    (hdiffer : f.uniquenessIds.Nodup) {clauses : List Clause}
    (hc : (m.factTypeClauses f).result = .ok clauses) :
    ∃ relations accounts, (m.relationsFor f).result = .ok relations ∧
      List.Forall₂ (m.AccountsFor f) relations accounts ∧
      clauses = accounts.flatMap Account.whole ++ accounts.flatMap Account.columns ∧
      (m.factTypeClauses f).diagnostics =
        (m.relationsFor f).diagnostics ++ accounts.flatMap Account.findings ∧
      ∀ d ∈ (m.relationsFor f).diagnostics, d.code ≠ unboundCode := by
  obtain ⟨relations, whole, h, rfl⟩ := factTypeClauses_eq_ok_iff.mp hc
  rcases relationsAndClauses_eq_ok h with ⟨r, rel, hm, -⟩ | ⟨-, hr, rfl⟩
  · rw [hmode] at hm
    cases hm
  · refine ⟨relations, relations.map (m.accountOf f), hr, ?_, ?_, ?_, code_relationsFor⟩
    · rw [List.forall₂_map_right_iff]
      exact List.forall₂_same.mpr fun p hp =>
        accountsFor_accountOf (gives_of_mem_relationsFor hr hp) hdiffer
    · simp only [List.flatMap_map, columns_accountOf]
      rfl
    · rw [diagnostics_factTypeClauses hmode hr, List.flatMap_map]

end Model

/-! ## Members of a coffee club -/

namespace CoffeeClub

/-- A member drinks coffee or not, and if so then of a blend. -/
def drinks : FactType where
  id := some "drinks"
  name := "MemberDrinksBlend"
  roles := [{ id := some "who", factTypeId := some "drinks", playerId := some "member" },
    { id := some "what", factTypeId := some "drinks", playerId := some "blend",
      name := "favourite" },
    { id := some "whether", factTypeId := some "drinks", playerId := some "yes",
      name := "drinkers" }]
  uniquenessIds := [some "one member", some "one blend", some "elsewhere"]
  mandatoryIds := [some "all members", some "all blends"]

/-- Every blend has its drinker. -/
def allBlends : MandatoryConstraint := { id := some "all blends", roleIds := [some "what"] }

def model : Model where
  objects := [{ id := some "member", name := "Member", kind := .entity },
    { id := some "blend", name := "Blend", kind := .entity },
    { id := some "yes", name := "Yes", kind := .value, isImplicitBoolean := true }]
  factTypes := [drinks]
  uniquenessConstraints :=
    [{ id := some "one member", roleIds := [some "what", some "whether"] },
      { id := some "one blend", roleIds := [some "who"] }]
  mandatoryConstraints := [{ id := some "all members", roleIds := [some "who"] }, allBlends]

/-- The blend that a member drinks. -/
def favourite : Predicate := ⟨"favourite", some "one blend", [some "who"], [some "what"]⟩

/-- The members that drink coffee. -/
def drinkers : Predicate := ⟨"drinkers", some "one blend", [some "who"], [some "whether"]⟩

/-- The clauses on the club. -/
def clauses : List Clause :=
  [favourite.missingClause, favourite.functionClause, favourite.missingClause,
    model.containmentIn drinkers (some "who"),
    model.typeClause favourite, model.occurrenceIn favourite (some "who"),
    model.occurrenceIn favourite (some "what"), model.occurrenceIn drinkers (some "who")]

/-- The set of drinkers has no column for blends. -/
theorem drinks_accounted : model.matchReferenceMode drinks = .ok none ∧
    drinks.uniquenessIds.Nodup ∧ (model.factTypeClauses drinks).result = .ok clauses ∧
    ∃ accounts, List.Forall₂ (model.AccountsFor drinks) [favourite, drinkers] accounts ∧
      clauses = accounts.flatMap Account.whole ++ accounts.flatMap Account.columns ∧
      accounts.flatMap Account.findings = [.unboundMandatoryRole drinks allBlends drinkers] := by
  have hmode : model.matchReferenceMode drinks = .ok none := rfl
  have hdiffer : drinks.uniquenessIds.Nodup := by decide
  have hclauses : (model.factTypeClauses drinks).result = .ok clauses := rfl
  obtain ⟨relations, accounts, hr, haccounts, hlist, hfindings, -⟩ :=
    Model.factTypeClauses_accounted hmode hdiffer hclauses
  obtain rfl : relations = [favourite, drinkers] := Except.ok.inj (hr.symm.trans rfl)
  exact ⟨hmode, hdiffer, hclauses, accounts, haccounts, hlist, hfindings.symm.trans rfl⟩

end CoffeeClub

end RoleSchema
