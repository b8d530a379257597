import RoleSchema.Proofs.Model.Alteration
import RoleSchema.Proofs.Relation.Agreement

/-!
# Clauses of an altered model

The translation of a fact type names no positions and compares none, and asks for the players of the
roles that can become columns. So an altered model in which these players are as they were gives an
altered fact type the clauses that it had, and the same is found and logged on the way; only a
reference mode that comes up in between has an altered entity type and altered roles.

* `Alteration.KeepsPlayers`: the players that have to be as they were.
* `matchReferenceMode_altered`: the reference mode of a fact type is altered as its parts are.
* `factTypeClauses_altered`: the clauses and the findings of a fact type.
-/

namespace RoleSchema

open RoleSchema.Rel (Predicate Formula)

/-- The reference mode of an altered entity type, with altered roles. -/
def ReferenceMode.altered (a : Alteration) (x : ReferenceMode) : ReferenceMode :=
  { x with
    entity := x.entity.altered a
    entityRole := x.entityRole.altered a
    identifierRole := x.identifierRole.map (Role.altered a) }

/-- The players of the roles that can become columns are as they were, by their ids. -/
def Alteration.KeepsPlayers (a : Alteration) (m : Model) (f : FactType) : Prop :=
  ∀ role ∈ m.columnRoles f, (m.altered a).playerId role = m.playerId role

namespace Model

variable {m : Model} {a : Alteration} {f : FactType}

/-! ## Players and types -/

section

variable {role : Id} (h : (m.altered a).playerId role = m.playerId role)
include h

theorem roleType_altered : (m.altered a).roleType role = m.roleType role := by
  unfold roleType
  rw [entityThatPlays_altered h, dataTypeOfPlayer_altered h]
  cases m.entityThatPlays role <;> rfl

theorem playerName_altered : (m.altered a).playerName role = m.playerName role := by
  unfold playerName
  rw [rolePlayer_altered h]
  cases m.rolePlayer role <;> rfl

end

/-! ## Reference modes -/

theorem matchEntityRole_altered (h : a.KeepsPlayers m f) (u identifier : Id) (entity : ObjectType)
    {role : Role} (hrole : role ∈ f.roles) :
    (m.altered a).matchEntityRole (f.altered a) u (entity.altered a) identifier (role.altered a) =
      (m.matchEntityRole f u entity identifier role).map
        (Option.map (ReferenceMode.altered a)) := by
  have hplayer : ((m.altered a).entityThatPlays role.id).filter (fun player =>
        player.id == (entity.altered a).id) =
      ((m.entityThatPlays role.id).filter fun player => player.id == entity.id).map
        (ObjectType.altered a) := by
    rw [entityThatPlays_altered (h _ (id_mem_columnRoles hrole)), Option.filter_map]
    rfl
  unfold matchEntityRole
  simp only [Role.id_altered, FactType.uniquenessIds_altered, FactType.mandatoryIds_altered,
    FactType.role?_altered, hplayer, loneRoleOf_altered]
  split
  · rfl
  · cases (m.entityThatPlays role.id).filter _ with
    | none => rfl
    | some player =>
      simp only [Option.map_some]
      split
      · rfl
      · split <;> rfl

theorem matchIdentifier_altered (h : a.KeepsPlayers m f) (u : Id) :
    (m.altered a).matchIdentifier (f.altered a) u =
      (m.matchIdentifier f u).map (Option.map (ReferenceMode.altered a)) := by
  unfold matchIdentifier
  rw [entityIdentifiedBy_altered, loneRoleOf_altered]
  cases m.entityIdentifiedBy u with
  | none => rfl
  | some entity =>
    cases m.loneRoleOf u with
    | none => rfl
    | some identifier =>
      exact (findSomeM?_among ..).trans
        (findSomeM?_map fun role hrole => matchEntityRole_altered h _ _ _ hrole)

theorem matchReferenceMode_altered (h : a.KeepsPlayers m f) :
    (m.altered a).matchReferenceMode (f.altered a) =
      (m.matchReferenceMode f).map (Option.map (ReferenceMode.altered a)) := by
  have hroles : (f.altered a).roles.length = f.roles.length := List.length_map ..
  unfold matchReferenceMode
  rw [hroles, FactType.uniquenessIds_altered]
  split
  · exact findSomeM?_map fun u _ => matchIdentifier_altered h u
  · rfl

theorem referenceModeRelations_altered (h : a.KeepsPlayers m f) {x : ReferenceMode}
    (hx : m.Identifies f x) :
    (m.altered a).referenceModeRelations (x.altered a) = m.referenceModeRelations x := by
  unfold referenceModeRelations
  cases hi : x.identifierRole with
  | none =>
    simp only [ReferenceMode.altered, hi]
    rfl
  | some identifier =>
    have hmem := id_mem_columnRoles (m := m) (hx.identifierRole_spec hi).1
    have hlabel : (m.altered a).identifierLabel (x.entity.altered a) (identifier.altered a) =
        m.identifierLabel x.entity identifier := by
      unfold identifierLabel
      rw [Role.id_altered, playerName_altered (h _ hmem)]
      rfl
    simp only [ReferenceMode.altered, hi, Option.map_some, hlabel]
    rfl

/-! ## Relations of names -/

theorem namedRoleRelation_altered (h : a.KeepsPlayers m f) (role : Role) :
    (m.altered a).namedRoleRelation (f.altered a) (role.altered a) =
      m.namedRoleRelation f role := by
  have hunary : f.roleIds.any (m.altered a).isImplicitBoolean = f.roleIds.any m.isImplicitBoolean :=
    any_congr_of_mem fun _ hr => isImplicitBoolean_altered (h _ (List.mem_append_left _ hr))
  unfold namedRoleRelation
  rw [Role.id_altered, uniquenessExcludingRole_altered, FactType.roleIds_altered, hunary]
  cases m.uniquenessExcludingRole role.id f <;> rfl

theorem userNamedRelations_altered (h : a.KeepsPlayers m f) (roles : List Role) :
    (m.altered a).userNamedRelations (f.altered a) (roles.map (Role.altered a)) =
      m.userNamedRelations f roles := by
  induction roles with
  | nil => rfl
  | cons role rest ih =>
    rw [List.map_cons]
    unfold userNamedRelations
    rw [namedRoleRelation_altered h, ih, Role.name_altered]

theorem systemNamedRelations_altered :
    (m.altered a).systemNamedRelations (f.altered a) = m.systemNamedRelations f := by
  unfold systemNamedRelations
  rw [uniquenessConstraintsOf_altered]
  match m.uniquenessConstraintsOf f with
  | [] | _ :: _ :: _ => rfl
  | [u] =>
    simp only [List.map_cons, List.map_nil, FactType.rolesExcludedBy_altered]
    rfl

theorem relationsFor_altered (h : a.KeepsPlayers m f) :
    (m.altered a).relationsFor (f.altered a) = m.relationsFor f := by
  have huser : (m.altered a).userNamedRelations (f.altered a) (f.altered a).roles =
      m.userNamedRelations f f.roles := userNamedRelations_altered h f.roles
  unfold relationsFor
  rw [huser, systemNamedRelations_altered, FactType.hasNamedRoles_altered]
  rfl

/-! ## Clauses -/

section

variable {p : Predicate} (h : ∀ role ∈ p.roleIds, (m.altered a).playerId role = m.playerId role)
include h

theorem isUnary_altered : (m.altered a).isUnary p = m.isUnary p := by
  unfold isUnary
  split
  · next v rest _ hv =>
    refine isImplicitBoolean_altered (h v ?_)
    simp [Predicate.roleIds, hv]
  · rfl

theorem typeClause_altered : (m.altered a).typeClause p = m.typeClause p := by
  have htypes (vars : List String) :
      ((p.roleIds.zip vars).map fun c => Formula.atom (.type ((m.altered a).roleType c.1)) [c.2]) =
        (p.roleIds.zip vars).map fun c => .atom (.type (m.roleType c.1)) [c.2] :=
    List.map_congr_left fun c hc => by rw [roleType_altered (h c.1 (List.of_mem_zip hc).1)]
  unfold typeClause
  simp only [htypes]

theorem wholeClausesOf_altered :
    (m.altered a).wholeClausesOf (f.altered a) p = m.wholeClausesOf f p := by
  have hkey : p.key.map ((m.altered a).containmentIn p) = p.key.map (m.containmentIn p) := by
    refine List.map_congr_left fun role hr => ?_
    unfold containmentIn
    rw [roleType_altered (h role (List.mem_append_left _ hr))]
  unfold wholeClausesOf
  rw [isUnary_altered h, hkey, FactType.uniquenessIds_altered]

theorem mandatoryClause_altered (c : MandatoryConstraint) :
    (m.altered a).mandatoryClause (c.moved a.constraints) p = m.mandatoryClause c p := by
  show (p.firstOccurrence c.roleIds).map _ = (p.firstOccurrence c.roleIds).map _
  cases hr : p.firstOccurrence c.roleIds with
  | none => rfl
  | some role =>
    rw [Option.map_some, Option.map_some,
      roleType_altered (h role (List.mem_of_find?_eq_some hr))]

theorem mandatoryClauses_altered (constraints : List MandatoryConstraint) :
    (m.altered a).mandatoryClauses (f.altered a) p
        (constraints.map (MandatoryConstraint.moved a.constraints)) =
      m.mandatoryClauses f p constraints := by
  induction constraints with
  | nil => rfl
  | cons c rest ih =>
    rw [List.map_cons]
    unfold mandatoryClauses
    rw [mandatoryClause_altered h, ih]
    rfl

end

theorem columnClauses_altered {relations : List Predicate}
    (h : ∀ p ∈ relations, ∀ role ∈ p.roleIds, (m.altered a).playerId role = m.playerId role) :
    (m.altered a).columnClauses (f.altered a) relations = m.columnClauses f relations := by
  induction relations with
  | nil => rfl
  | cons p rest ih =>
    have hfirst := h p (List.mem_cons_self ..)
    have hrest := ih fun q hq => h q (List.mem_cons_of_mem _ hq)
    unfold columnClauses
    rw [isUnary_altered hfirst, typeClause_altered hfirst, mandatoryConstraintsOf_altered,
      mandatoryClauses_altered hfirst, hrest]

theorem relationsAndClauses_altered (h : a.KeepsPlayers m f) :
    (m.altered a).relationsAndClauses (f.altered a) = m.relationsAndClauses f := by
  unfold relationsAndClauses
  rw [matchReferenceMode_altered h, Reporting.ofExcept_map_bind]
  refine Reporting.bind_congr fun o ho => ?_
  cases o with
  | some x =>
    simp only [Option.map_some, referenceModeRelations_altered h (identifies_of_match ho)]
    rfl
  | none =>
    simp only [Option.map_none, relationsFor_altered h]
    refine Reporting.bind_congr fun relations hr => ?_
    have hclauses : relations.map ((m.altered a).wholeClausesOf (f.altered a)) =
        relations.map (m.wholeClausesOf f) :=
      List.map_congr_left fun p hp => wholeClausesOf_altered fun role hrole =>
        h role ((gives_of_mem_relationsFor hr hp).mem_columnRoles role hrole)
    rw [mapM_of_ok fun p _ => relationClauses_eq p, mapM_of_ok fun p _ => relationClauses_eq p,
      hclauses]

/-- An altered fact type has the clauses that it had. -/
theorem factTypeClauses_altered (h : a.KeepsPlayers m f) :
    (m.altered a).factTypeClauses (f.altered a) = m.factTypeClauses f := by
  unfold factTypeClauses
  rw [relationsAndClauses_altered h]
  refine Reporting.bind_congr fun x hx => ?_
  obtain ⟨relations, whole⟩ := x
  have hcolumns : (m.altered a).columnClauses (f.altered a) relations =
      m.columnClauses f relations := columnClauses_altered fun p hp role hrole =>
    h role ((gives_of_mem hx hp).mem_columnRoles role hrole)
  simp only [hcolumns]

end Model

end RoleSchema
