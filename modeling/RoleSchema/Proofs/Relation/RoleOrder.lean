import Mathlib.Data.List.Find
import Mathlib.Data.Multiset.Bind
import RoleSchema.Proofs.Relation.Agreement
import RoleSchema.Proofs.Relation.Faults

/-!
# Roles have no order

The uniqueness constraints decide which roles of a fact type are the key of a relation and which are
its value; where a role stands among the others decides nothing. If no two roles of a model share
their id, the roles of a fact type can be listed in another order: the same reference mode is found,
the relations are the same up to the order of their value columns, and so are the findings up to
their order. Where at most one role is the value of a relation, the clauses are the same as well.

* `roles_unordered`: a fact type and the model with its roles in another order.
-/

namespace RoleSchema

open RoleSchema.Rel (Predicate Clause)

/-- The fact type with its roles listed otherwise. -/
def FactType.withRoles (f : FactType) (roles : List Role) : FactType := { f with roles }

/-- A relation without the order of its value columns: its name, the constraint that it comes of,
its key in order, and its value. -/
def Rel.Predicate.unordered (p : Predicate) : String × Id × List Id × Multiset Id :=
  (p.name, p.uniqueness, p.key, p.value)

namespace Model

/-- The ids of all roles. -/
def roleIds (m : Model) : List Id := m.factTypes.flatMap FactType.roleIds

/-- The model with the roles of one fact type listed otherwise. -/
def withRoles (m : Model) (f : FactType) (roles : List Role) : Model :=
  { m with factTypes := m.factTypes.map fun g => if g = f then f.withRoles roles else g }

/-- The relations of a fact type: those of the reference mode that it is, or else those of its
names. -/
def relationsOf (m : Model) (f : FactType) : Reporting SchemaFault (List Predicate) := do
  match ← Reporting.ofExcept (m.matchReferenceMode f) with
  | some r => do
    let relations ← Reporting.ofExcept (m.referenceModeRelations r)
    pure [relations.forward, relations.inverse]
  | none => m.relationsFor f

/-- A fact type of one model and one of another are the same reference mode or none, and have the
same relations but for the order of value columns, and the same findings. -/
structure TranslatesLike (m : Model) (f : FactType) (m' : Model) (f' : FactType) : Prop where
  mode : m.matchReferenceMode f = m'.matchReferenceMode f'
  relations :
    (m.relationsOf f).result.map (fun ps => Multiset.ofList (ps.map Predicate.unordered)) =
      (m'.relationsOf f').result.map fun ps => Multiset.ofList (ps.map Predicate.unordered)
  findings : (m.relationsOf f).diagnostics.Perm (m'.relationsOf f').diagnostics

/-- Models that agree on a fact type give it the same relations. -/
theorem AgreesOn.relationsOf {m m' : Model} {f : FactType} (h : m.AgreesOn m' f) :
    m'.relationsOf f = m.relationsOf f := by
  unfold Model.relationsOf
  rw [h.matchReferenceMode]
  refine Reporting.bind_congr fun o ho => ?_
  cases o with
  | some r => simp only [h.referenceModeRelations (identifies_of_match ho)]
  | none => exact h.relationsFor

variable {m : Model} {f : FactType} {roles : List Role}

/-! ## Look-ups by role -/

/-- Where no two roles share their id, a look-up by id does not depend on the order. -/
theorem find?_role_of_perm {rs rs' : List Role} (hp : rs.Perm rs') (hn : (rs'.map Role.id).Nodup)
    (id : Id) : rs.find? (fun r => r.id == id) = rs'.find? (fun r => r.id == id) := by
  refine List.find?_eq_find?_of_perm hp fun x hx y hy => ?_
  have hid : x.id = y.id := by
    have hx := hx.2
    have hy := hy.2
    simp only [beq_iff_eq] at hx hy
    rw [hx, hy]
  exact List.inj_on_of_nodup_map hn (hp.mem_iff.mp hx.1) (hp.mem_iff.mp hy.1) hid

theorem roleIds_nodup (hids : m.roleIds.Nodup) (hf : f ∈ m.factTypes) : f.roleIds.Nodup :=
  (List.nodup_flatMap.mp hids).1 f hf

theorem roles_withRoles_perm (hp : roles.Perm f.roles) :
    ((m.withRoles f roles).factTypes.flatMap FactType.roles).Perm
      (m.factTypes.flatMap FactType.roles) := by
  unfold withRoles
  rw [List.flatMap_map]
  refine List.Perm.flatMap_left _ fun g _ => ?_
  by_cases hg : g = f
  · rw [if_pos hg, hg]
    exact hp
  · rw [if_neg hg]

theorem roleById_withRoles (hids : m.roleIds.Nodup) (hp : roles.Perm f.roles) (id : Id) :
    (m.withRoles f roles).roleById id = m.roleById id := by
  refine find?_role_of_perm (roles_withRoles_perm hp) ?_ id
  rw [List.map_flatMap]
  exact hids

/-- A model with the roles of a fact type in another order answers as before whatever the
translation of a fact type asks. -/
theorem agreesOn_withRoles (hids : m.roleIds.Nodup) (hp : roles.Perm f.roles) (g : FactType) :
    m.AgreesOn (m.withRoles f roles) g := by
  have hplayer (role : Id) : (m.withRoles f roles).rolePlayer role = m.rolePlayer role := by
    unfold rolePlayer playerId
    rw [roleById_withRoles hids hp]
    rfl
  exact
    { uniqueness := rfl
      mandatory := rfl
      identified := fun _ _ => rfl
      loneRole := fun _ _ => rfl
      player := fun role _ => hplayer role
      dataType := fun role _ => by
        unfold dataTypeOfPlayer
        rw [hplayer]
        rfl }

/-! ## Reference modes -/

section

variable (hn : f.roleIds.Nodup)

include hn

theorem matchEntityRole_withRoles (hp : roles.Perm f.roles) (u identifier : Id)
    (entity : ObjectType) (role : Role) :
    m.matchEntityRole (f.withRoles roles) u entity identifier role =
      m.matchEntityRole f u entity identifier role := by
  have hrole : (f.withRoles roles).role? identifier = f.role? identifier :=
    find?_role_of_perm hp hn identifier
  unfold matchEntityRole
  rw [hrole]
  rfl

/-- At most one role of a fact type is that of the entity type, unless each test of a role fails. -/
theorem matchEntityRole_unique {u identifier : Id} {entity : ObjectType} {x y : Role}
    (hx : x ∈ f.roles) (hy : y ∈ f.roles)
    (hx' : m.matchEntityRole f u entity identifier x ≠ .ok none)
    (hy' : m.matchEntityRole f u entity identifier y ≠ .ok none) :
    m.matchEntityRole f u entity identifier x = m.matchEntityRole f u entity identifier y := by
  cases hw : f.uniquenessIds.find? fun v => v != u with
  | none =>
    have hall : ∀ v ∈ f.uniquenessIds, v = u := by simpa using hw
    rw [matchEntityRole_of_repeated hall] at hx' hy' ⊢
    rw [matchEntityRole_of_repeated hall]
    rw [if_pos (by by_contra h; exact hx' (if_neg h)),
      if_pos (by by_contra h; exact hy' (if_neg h))]
  | some w =>
    -- both roles are the one that the other uniqueness constraint spans alone
    have hspans {r : Role} (h : m.matchEntityRole f u entity identifier r ≠ .ok none) :
        m.loneRoleOf w = r.id := by
      rw [matchEntityRole_of_other hw] at h
      by_contra hr
      exact h (by rw [if_neg fun hc => hr hc.2.2.1])
    have hid : x.id = y.id := (hspans hx').symm.trans (hspans hy')
    rw [List.inj_on_of_nodup_map hn hx hy hid]

theorem matchReferenceMode_withRoles (hp : roles.Perm f.roles) :
    m.matchReferenceMode (f.withRoles roles) = m.matchReferenceMode f := by
  have hidentifier (u : Id) :
      m.matchIdentifier (f.withRoles roles) u = m.matchIdentifier f u := by
    unfold matchIdentifier
    split
    · next entity identifier _ _ =>
      rw [findSomeM?_congr fun role _ => matchEntityRole_withRoles hn hp u identifier entity role]
      refine (findSomeM?_of_perm hp.symm fun x hx y hy => ?_).symm
      exact matchEntityRole_unique hn hx hy
    · rfl
  have hlength : (f.withRoles roles).roles.length = f.roles.length := hp.length_eq
  unfold matchReferenceMode
  rw [hlength, findSomeM?_congr fun u _ => hidentifier u]
  rfl

end

/-! ## Relations of names -/

section

variable (hp : roles.Perm f.roles)

include hp

theorem rolesExcludedBy_withRoles (u : UniquenessConstraint) :
    ((f.withRoles roles).rolesExcludedBy u).Perm (f.rolesExcludedBy u) :=
  (hp.map Role.id).filter _

theorem hasNamedRoles_withRoles : (f.withRoles roles).hasNamedRoles = f.hasNamedRoles :=
  hp.any_eq

/-- Whatever is read off the relations of a fact type without regard to the order of value columns,
the same is read off if the roles are listed otherwise. -/
theorem result_relationsFor_withRoles {γ : Type} {g : Predicate → γ}
    (hg : ∀ u ∈ m.uniquenessConstraintsOf f, ∀ name,
      g ⟨name, u.id, u.roleIds, (f.withRoles roles).rolesExcludedBy u⟩ =
        g ⟨name, u.id, u.roleIds, f.rolesExcludedBy u⟩) :
    (m.relationsFor (f.withRoles roles)).result.map (fun ps => Multiset.ofList (ps.map g)) =
      (m.relationsFor f).result.map fun ps => Multiset.ofList (ps.map g) := by
  rw [result_relationsFor, result_relationsFor, hasNamedRoles_withRoles hp]
  split
  · have hrelations : (roles.filterMap (m.namedRelation? f)).Perm
        (f.roles.filterMap (m.namedRelation? f)) := hp.filterMap _
    exact congrArg Except.ok (Multiset.coe_eq_coe.mpr (hrelations.map g))
  · have hconstraints : m.uniquenessConstraintsOf (f.withRoles roles) =
        m.uniquenessConstraintsOf f := rfl
    unfold systemNamedRelations
    rw [hconstraints]
    split
    · rfl
    · next u hu =>
      have hsame := hg u (hu ▸ List.mem_singleton_self u)
      have hname : (f.withRoles roles).name = f.name := rfl
      rw [hname]
      cases snakeCase f.name with
      | error fault => rfl
      | ok name => exact congrArg (fun x => Except.ok (Multiset.ofList [x])) (hsame name)
    · rfl

theorem diagnostics_relationsFor_withRoles :
    (m.relationsFor (f.withRoles roles)).diagnostics.Perm (m.relationsFor f).diagnostics := by
  rw [diagnostics_relationsFor, diagnostics_relationsFor, hasNamedRoles_withRoles hp]
  split
  · have hunary : (f.withRoles roles).roleIds.any m.isImplicitBoolean =
        f.roleIds.any m.isImplicitBoolean := (hp.map Role.id).any_eq
    have hfinding (r : Role) : m.unkeyed? (f.withRoles roles) r = m.unkeyed? f r := by
      unfold unkeyed?
      rw [hunary]
      rfl
    simp only [hfinding]
    exact hp.filterMap _
  · exact List.Perm.refl _

end

/-! ## Translations -/

theorem relationsOf_of_none (h : m.matchReferenceMode f = .ok none) :
    m.relationsOf f = m.relationsFor f := by
  unfold relationsOf
  rw [h]
  exact pure_bind none _

/-- Where a fact type is no reference mode, its relations without their order determine its clauses
without theirs. -/
theorem clauses_of_none (h : m.matchReferenceMode f = .ok none) :
    (m.factTypeClauses f).result.map Multiset.ofList =
      ((m.relationsFor f).result.map Multiset.ofList).map fun ps =>
        ps.bind (fun p => Multiset.ofList (m.wholeClausesOf f p)) +
          ps.bind fun p => Multiset.ofList (m.columnClausesOf f p) := by
  rw [result_factTypeClauses, result_relationsAndClauses_of_none h]
  cases (m.relationsFor f).result with
  | error fault => rfl
  | ok ps => simp only [Except.map, Multiset.coe_bind, Multiset.coe_add]

section

variable (hn : f.roleIds.Nodup) (hp : roles.Perm f.roles)

include hn hp

/-- A reference mode, and a search for one that fails, settle the relations and the clauses whatever
the order of the roles. -/
theorem relations_withRoles_of_ne_none (h : m.matchReferenceMode f ≠ .ok none) :
    m.relationsOf (f.withRoles roles) = m.relationsOf f ∧
      m.relationsAndClauses (f.withRoles roles) = m.relationsAndClauses f := by
  have hmode := matchReferenceMode_withRoles (m := m) hn hp
  unfold relationsOf relationsAndClauses
  rw [hmode]
  cases hm : m.matchReferenceMode f with
  | error fault => exact ⟨rfl, rfl⟩
  | ok o =>
    cases o with
    | none => exact absurd hm h
    | some r => exact ⟨rfl, rfl⟩

theorem result_relationsOf_withRoles :
    (m.relationsOf (f.withRoles roles)).result.map
        (fun ps => Multiset.ofList (ps.map Predicate.unordered)) =
      (m.relationsOf f).result.map fun ps => Multiset.ofList (ps.map Predicate.unordered) := by
  by_cases h : m.matchReferenceMode f = .ok none
  · have h' := (matchReferenceMode_withRoles hn hp).trans h
    rw [relationsOf_of_none h, relationsOf_of_none h']
    refine result_relationsFor_withRoles hp fun u _ name => ?_
    have hvalue := Multiset.coe_eq_coe.mpr (rolesExcludedBy_withRoles hp u)
    exact congrArg (fun vs => (name, u.id, u.roleIds, vs)) hvalue
  · rw [(relations_withRoles_of_ne_none hn hp h).1]

theorem diagnostics_relationsOf_withRoles :
    (m.relationsOf (f.withRoles roles)).diagnostics.Perm (m.relationsOf f).diagnostics := by
  by_cases h : m.matchReferenceMode f = .ok none
  · have h' := (matchReferenceMode_withRoles hn hp).trans h
    rw [relationsOf_of_none h, relationsOf_of_none h']
    exact diagnostics_relationsFor_withRoles hp
  · rw [(relations_withRoles_of_ne_none hn hp h).1]

/-- Where each uniqueness constraint leaves out at most one role, the clauses are the same. -/
theorem factTypeClauses_withRoles
    (hspan : ∀ u ∈ m.uniquenessConstraintsOf f, (f.rolesExcludedBy u).length ≤ 1) :
    (m.factTypeClauses (f.withRoles roles)).result.map Multiset.ofList =
      (m.factTypeClauses f).result.map Multiset.ofList := by
  by_cases h : m.matchReferenceMode f = .ok none
  · have h' := (matchReferenceMode_withRoles hn hp).trans h
    -- a value of at most one column has only one order
    have hvalue : ∀ u ∈ m.uniquenessConstraintsOf f,
        (f.withRoles roles).rolesExcludedBy u = f.rolesExcludedBy u := by
      intro u hu
      have hperm : ((f.withRoles roles).rolesExcludedBy u).Perm (f.rolesExcludedBy u) :=
        rolesExcludedBy_withRoles hp u
      rcases Nat.le_one_iff_eq_zero_or_eq_one.mp (hspan u hu) with hl | hl
      · rw [List.length_eq_zero_iff.mp hl] at hperm ⊢
        exact hperm.eq_nil
      · obtain ⟨v, hv⟩ := List.length_eq_one_iff.mp hl
        rw [hv] at hperm ⊢
        exact List.perm_singleton.mp hperm
    have hrelations := result_relationsFor_withRoles (m := m) (g := id) hp fun u hu name => by
      rw [hvalue u hu]
    simp only [List.map_id] at hrelations
    rw [clauses_of_none h, clauses_of_none h', hrelations]
    rfl
  · rw [result_factTypeClauses, result_factTypeClauses, (relations_withRoles_of_ne_none hn hp h).2]
    rfl

end

/-- **Roles have no order.** If no two roles of a model share their id and the roles of a fact type
are listed in another order, the fact type is the same reference mode or none, or the search for it
fails alike; its relations are the same up to the order of their value columns, and its findings up
to their order. If each of its uniqueness constraints leaves out at most one role, its clauses are
the same up to their order as well. -/
theorem roles_unordered (hids : m.roleIds.Nodup) (hf : f ∈ m.factTypes)
    (hp : roles.Perm f.roles) :
    (m.withRoles f roles).TranslatesLike (f.withRoles roles) m f ∧
      ((∀ u ∈ m.uniquenessConstraintsOf f, (f.rolesExcludedBy u).length ≤ 1) →
        ((m.withRoles f roles).factTypeClauses (f.withRoles roles)).result.map Multiset.ofList =
          (m.factTypeClauses f).result.map Multiset.ofList) := by
  have hn : f.roleIds.Nodup := roleIds_nodup hids hf
  have hagree : m.AgreesOn (m.withRoles f roles) (f.withRoles roles) :=
    agreesOn_withRoles hids hp _
  have hrelations : (m.withRoles f roles).relationsOf (f.withRoles roles) =
      m.relationsOf (f.withRoles roles) := hagree.relationsOf
  constructor
  · exact
      { mode := hagree.matchReferenceMode.trans (matchReferenceMode_withRoles hn hp)
        relations := hrelations ▸ result_relationsOf_withRoles hn hp
        findings := hrelations ▸ diagnostics_relationsOf_withRoles hn hp }
  · intro hspan
    rw [hagree.factTypeClauses]
    exact factTypeClauses_withRoles hn hp hspan

end Model

/-! ## Examinations -/

namespace Examinations

def student : Role :=
  { id := some "student", factTypeId := some "grade", playerId := some "Student" }

def course : Role :=
  { id := some "course", factTypeId := some "grade", playerId := some "Course" }

def mark : Role :=
  { id := some "mark", factTypeId := some "grade", playerId := some "Mark" }

/-- Students are given marks for courses. -/
def graded : FactType where
  id := some "grade"
  name := "StudentIsGivenMarkForCourse"
  roles := [student, mark, course]
  uniquenessIds := [some "one mark"]

/-- A student has one mark for a course. -/
def oneMark : UniquenessConstraint where
  id := some "one mark"
  roleIds := [some "student", some "course"]

def model : Model where
  objects :=
    [{ id := some "Student", name := "Student", kind := .entity },
      { id := some "Course", name := "Course", kind := .entity },
      { id := some "Mark", name := "Mark", kind := .value }]
  factTypes := [graded]
  uniquenessConstraints := [oneMark]

/-- The mark can come first or last. -/
theorem roles_unordered_graded :
    model.roleIds.Nodup ∧ graded ∈ model.factTypes ∧
      (∀ u ∈ model.uniquenessConstraintsOf graded, (graded.rolesExcludedBy u).length ≤ 1) ∧
      (model.withRoles graded [mark, course, student]).TranslatesLike
        (graded.withRoles [mark, course, student]) model graded ∧
      ((model.withRoles graded [mark, course, student]).factTypeClauses
        (graded.withRoles [mark, course, student])).result.map Multiset.ofList =
          (model.factTypeClauses graded).result.map Multiset.ofList := by
  have hids : model.roleIds.Nodup := by decide
  have hmem : graded ∈ model.factTypes := by decide
  have hperm : [mark, course, student].Perm graded.roles := by decide
  have hspan : ∀ u ∈ model.uniquenessConstraintsOf graded,
      (graded.rolesExcludedBy u).length ≤ 1 := by decide
  obtain ⟨hlike, hclauses⟩ := Model.roles_unordered hids hmem hperm
  exact ⟨hids, hmem, hspan, hlike, hclauses hspan⟩

end Examinations

end RoleSchema
