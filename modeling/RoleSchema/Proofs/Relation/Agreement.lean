import RoleSchema.Proofs.Relation.Clauses

/-!
# Models that agree on a fact type

To translate a fact type a model is asked for its constraints, for what these identify and span, and
for the players of the roles that can become columns. Models that answer these questions alike give
the same clauses and the same findings, whatever else they hold.

* `AgreesOn.factTypeClauses`: the clauses and the findings of a fact type.
-/

namespace RoleSchema

open RoleSchema.Rel (Predicate Formula)

theorem any_congr_of_mem {α : Type} {p q : α → Bool} {xs : List α} (h : ∀ x ∈ xs, p x = q x) :
    xs.any p = xs.any q := by
  induction xs with
  | nil => rfl
  | cons x xs ih =>
    rw [List.any_cons, List.any_cons, h x (by simp), ih fun y hy => h y (by simp [hy])]

namespace Model

/-- The roles that can become columns of the relations of a fact type: its own and those that its
uniqueness constraints span. -/
def columnRoles (m : Model) (f : FactType) : List Id :=
  f.roleIds ++ (m.uniquenessConstraintsOf f).flatMap UniquenessConstraint.roleIds

/-- Two models answer alike whatever the translation of a fact type asks. -/
structure AgreesOn (m m' : Model) (f : FactType) : Prop where
  uniqueness : m'.uniquenessConstraintsOf f = m.uniquenessConstraintsOf f
  mandatory : m'.mandatoryConstraintsOf f = m.mandatoryConstraintsOf f
  identified : ∀ u ∈ f.uniquenessIds, m'.entityIdentifiedBy u = m.entityIdentifiedBy u
  loneRole : ∀ c, c ∈ f.uniquenessIds ∨ c ∈ f.mandatoryIds → m'.loneRoleOf c = m.loneRoleOf c
  player : ∀ role ∈ m.columnRoles f, m'.rolePlayer role = m.rolePlayer role
  dataType : ∀ role ∈ m.columnRoles f, m'.dataTypeOfPlayer role = m.dataTypeOfPlayer role

variable {m : Model} {f : FactType}

/-! ## Columns -/

theorem id_mem_columnRoles {r : Role} (h : r ∈ f.roles) : r.id ∈ m.columnRoles f :=
  List.mem_append_left _ (List.mem_map_of_mem h)

theorem mem_columnRoles_of_uniqueness {u : UniquenessConstraint} {role : Id}
    (hu : u ∈ m.uniquenessConstraintsOf f) (hr : role ∈ u.roleIds) : role ∈ m.columnRoles f :=
  List.mem_append_right _ (List.mem_flatMap.mpr ⟨u, hu, hr⟩)

/-- The columns of the relations of a fact type are its roles and those of its constraints. -/
theorem Gives.mem_columnRoles {p : Predicate} (h : m.Gives f p) :
    ∀ role ∈ p.roleIds, role ∈ m.columnRoles f := by
  intro role hr
  cases h with
  | forward name hid hi | inverse name hid hi =>
    have hidentifier := id_mem_columnRoles (m := m) (hid.identifierRole_spec hi).1
    have hentity := id_mem_columnRoles (m := m) hid.entityRole_mem
    simp only [Predicate.roleIds, List.singleton_append, List.mem_cons, List.not_mem_nil,
      or_false] at hr
    rcases hr with rfl | rfl <;> assumption
  | named hrole hu =>
    rcases List.mem_append.mp hr with hr | hr
    · exact mem_columnRoles_of_uniqueness (List.mem_of_find?_eq_some hu) hr
    · rw [List.mem_singleton.mp hr]
      exact id_mem_columnRoles hrole
  | whole name hu =>
    rcases List.mem_append.mp hr with hr | hr
    · exact mem_columnRoles_of_uniqueness (hu ▸ List.mem_singleton_self _) hr
    · exact List.mem_append_left _ (List.mem_filter.mp hr).1

end Model

namespace Model.AgreesOn

variable {m m' : Model} {f : FactType}

/-! ## Players and types -/

theorem entityThatPlays (h : m.AgreesOn m' f) {role : Id} (hr : role ∈ m.columnRoles f) :
    m'.entityThatPlays role = m.entityThatPlays role := by
  unfold Model.entityThatPlays
  rw [h.player role hr]

theorem isImplicitBoolean (h : m.AgreesOn m' f) {role : Id} (hr : role ∈ m.columnRoles f) :
    m'.isImplicitBoolean role = m.isImplicitBoolean role := by
  unfold Model.isImplicitBoolean
  rw [h.player role hr]

theorem roleType (h : m.AgreesOn m' f) {role : Id} (hr : role ∈ m.columnRoles f) :
    m'.roleType role = m.roleType role := by
  unfold Model.roleType
  rw [h.entityThatPlays hr, h.dataType role hr]

theorem playerName (h : m.AgreesOn m' f) {role : Id} (hr : role ∈ m.columnRoles f) :
    m'.playerName role = m.playerName role := by
  unfold Model.playerName
  rw [h.player role hr]

/-! ## Reference modes -/

theorem matchEntityRole (h : m.AgreesOn m' f) {role : Role} (hr : role ∈ f.roles)
    (u identifier : Id) (entity : ObjectType) :
    m'.matchEntityRole f u entity identifier role =
      m.matchEntityRole f u entity identifier role := by
  unfold Model.matchEntityRole
  rw [h.entityThatPlays (id_mem_columnRoles hr)]
  cases hw : f.uniquenessIds.find? fun v => v != u with
  | none => rfl
  | some w =>
    have hlone := h.loneRole w (Or.inl (List.mem_of_find?_eq_some hw))
    have hmandatory : (f.mandatoryIds.any fun c => m'.loneRoleOf c == role.id) =
        f.mandatoryIds.any fun c => m.loneRoleOf c == role.id :=
      any_congr_of_mem fun c hc => by rw [h.loneRole c (Or.inr hc)]
    simp only [hlone, hmandatory]

theorem matchIdentifier (h : m.AgreesOn m' f) {u : Id} (hu : u ∈ f.uniquenessIds) :
    m'.matchIdentifier f u = m.matchIdentifier f u := by
  unfold Model.matchIdentifier
  rw [h.identified u hu, h.loneRole u (Or.inl hu)]
  split
  · exact findSomeM?_congr fun role hr => h.matchEntityRole hr _ _ _
  · rfl

theorem matchReferenceMode (h : m.AgreesOn m' f) :
    m'.matchReferenceMode f = m.matchReferenceMode f := by
  unfold Model.matchReferenceMode
  split
  · exact findSomeM?_congr fun u hu => h.matchIdentifier hu
  · rfl

theorem referenceModeRelations (h : m.AgreesOn m' f) {r : ReferenceMode} (hr : m.Identifies f r) :
    m'.referenceModeRelations r = m.referenceModeRelations r := by
  unfold Model.referenceModeRelations
  cases hi : r.identifierRole with
  | none => rfl
  | some identifier =>
    have hmem := id_mem_columnRoles (m := m) (hr.identifierRole_spec hi).1
    have hlabel : m'.identifierLabel r.entity identifier = m.identifierLabel r.entity identifier := by
      unfold Model.identifierLabel
      rw [h.playerName hmem]
    simp only [hlabel]

/-! ## Relations of names -/

theorem namedRoleRelation (h : m.AgreesOn m' f) (r : Role) :
    m'.namedRoleRelation f r = m.namedRoleRelation f r := by
  have hunary : f.roleIds.any m'.isImplicitBoolean = f.roleIds.any m.isImplicitBoolean :=
    any_congr_of_mem fun role hr => h.isImplicitBoolean (List.mem_append_left _ hr)
  unfold Model.namedRoleRelation Model.uniquenessExcludingRole
  rw [h.uniqueness, hunary]

theorem userNamedRelations (h : m.AgreesOn m' f) (roles : List Role) :
    m'.userNamedRelations f roles = m.userNamedRelations f roles := by
  induction roles with
  | nil => rfl
  | cons r rest ih =>
    unfold Model.userNamedRelations
    rw [h.namedRoleRelation, ih]

theorem relationsFor (h : m.AgreesOn m' f) : m'.relationsFor f = m.relationsFor f := by
  unfold Model.relationsFor Model.systemNamedRelations
  rw [h.userNamedRelations, h.uniqueness]

/-! ## Clauses -/

variable {p : Predicate}

theorem isUnary (h : m.AgreesOn m' f) (hp : ∀ role ∈ p.roleIds, role ∈ m.columnRoles f) :
    m'.isUnary p = m.isUnary p := by
  unfold Model.isUnary
  split
  · next v rest _ hv =>
    refine h.isImplicitBoolean (hp v ?_)
    simp [Predicate.roleIds, hv]
  · rfl

theorem typeClause (h : m.AgreesOn m' f) (hp : ∀ role ∈ p.roleIds, role ∈ m.columnRoles f) :
    m'.typeClause p = m.typeClause p := by
  have htypes (vars : List String) :
      ((p.roleIds.zip vars).map fun c => Formula.atom (.type (m'.roleType c.1)) [c.2]) =
        (p.roleIds.zip vars).map fun c => .atom (.type (m.roleType c.1)) [c.2] := by
    refine List.map_congr_left fun c hc => ?_
    rw [h.roleType (hp c.1 (List.of_mem_zip hc).1)]
  unfold Model.typeClause
  simp only [htypes]

theorem mandatoryClause (h : m.AgreesOn m' f) (hp : ∀ role ∈ p.roleIds, role ∈ m.columnRoles f)
    (c : MandatoryConstraint) : m'.mandatoryClause c p = m.mandatoryClause c p := by
  unfold Model.mandatoryClause
  cases hr : p.firstOccurrence c.roleIds with
  | none => rw [Option.map_none, Option.map_none]
  | some role =>
    have hmem := hp role (List.mem_of_find?_eq_some hr)
    rw [Option.map_some, Option.map_some, h.roleType hmem]

theorem wholeClausesOf (h : m.AgreesOn m' f) (hp : ∀ role ∈ p.roleIds, role ∈ m.columnRoles f) :
    m'.wholeClausesOf f p = m.wholeClausesOf f p := by
  have hkey : p.key.map (m'.containmentIn p) = p.key.map (m.containmentIn p) := by
    refine List.map_congr_left fun role hr => ?_
    unfold Model.containmentIn
    rw [h.roleType (hp role (List.mem_append_left _ hr))]
  unfold Model.wholeClausesOf
  rw [h.isUnary hp, hkey]

theorem mandatoryClauses (h : m.AgreesOn m' f) (hp : ∀ role ∈ p.roleIds, role ∈ m.columnRoles f)
    (constraints : List MandatoryConstraint) :
    m'.mandatoryClauses f p constraints = m.mandatoryClauses f p constraints := by
  induction constraints with
  | nil => rfl
  | cons c rest ih =>
    unfold Model.mandatoryClauses
    rw [h.mandatoryClause hp, ih]

theorem columnClauses (h : m.AgreesOn m' f) {relations : List Predicate}
    (hp : ∀ p ∈ relations, ∀ role ∈ p.roleIds, role ∈ m.columnRoles f) :
    m'.columnClauses f relations = m.columnClauses f relations := by
  induction relations with
  | nil => rfl
  | cons p rest ih =>
    have hfirst := hp p (List.mem_cons_self ..)
    have hrest := ih fun q hq => hp q (List.mem_cons_of_mem _ hq)
    unfold Model.columnClauses
    rw [h.isUnary hfirst, h.typeClause hfirst, h.mandatory, h.mandatoryClauses hfirst, hrest]

theorem relationsAndClauses (h : m.AgreesOn m' f) :
    m'.relationsAndClauses f = m.relationsAndClauses f := by
  unfold Model.relationsAndClauses
  rw [h.matchReferenceMode]
  refine Reporting.bind_congr fun o ho => ?_
  cases o with
  | some r => simp only [h.referenceModeRelations (identifies_of_match ho)]
  | none =>
    simp only [h.relationsFor]
    refine Reporting.bind_congr fun relations hr => ?_
    have hclauses : relations.map (m'.wholeClausesOf f) = relations.map (m.wholeClausesOf f) :=
      List.map_congr_left fun p hp =>
        h.wholeClausesOf (gives_of_mem_relationsFor hr hp).mem_columnRoles
    rw [mapM_of_ok fun p _ => relationClauses_eq p, mapM_of_ok fun p _ => relationClauses_eq p,
      hclauses]

/-- Models that agree on a fact type give it the same clauses and find the same in it. -/
theorem factTypeClauses (h : m.AgreesOn m' f) : m'.factTypeClauses f = m.factTypeClauses f := by
  unfold Model.factTypeClauses
  rw [h.relationsAndClauses]
  refine Reporting.bind_congr fun x hx => ?_
  obtain ⟨relations, whole⟩ := x
  have hcolumns := h.columnClauses fun p hp => (gives_of_mem hx hp).mem_columnRoles
  simp only [hcolumns]

end Model.AgreesOn

end RoleSchema
