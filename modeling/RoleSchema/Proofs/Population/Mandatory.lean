import RoleSchema.Proofs.Population.Basic

/-!
# Types and mandatory constraints

A mandatory constraint over one role asks that every instance of the player of the role occurs
there. Its clause asks for every instance of the type of the column, and that is the same only where
an entity type plays the role: the name of an entity type stands for its instances, while many value
types share the name of one primitive type.

* `Model.mandatory_holds_iff`: the exact condition.
* `Nicknames.mandatory_fails_on_values`: a mandatory role that a value type plays.
-/

namespace RoleSchema

open RoleSchema.Rel (Predicate Formula Clause Interpretation)

/-- A population of a fact type, the instances of every object type, and what the names of types
stand for. -/
structure Instances (V : Type) where
  tuples : Population V
  of : ObjectType → Set V
  types : String → Set V

/-- The instances fit a model and one of its fact types. -/
structure Instances.Obeys {V : Type} (s : Instances V) (m : Model) (f : FactType) : Prop where
  /-- Instances of the player of a role occur there, and no other values. -/
  player : ∀ t ∈ s.tuples, ∀ role ∈ f.roleIds, ∀ o, m.rolePlayer role = some o → t role ∈ s.of o
  /-- Every instance of the player of a role occurs there if a mandatory constraint is over the role
  alone. -/
  mandatory : ∀ c ∈ m.mandatoryConstraintsOf f, ∀ role, c.roleIds = [role] →
    ∀ o, m.rolePlayer role = some o → ∀ x ∈ s.of o, ∃ t ∈ s.tuples, t role = x
  /-- The name of an entity type stands for its instances. -/
  entity : ∀ o ∈ m.objects, o.isEntity = true → s.types o.name = s.of o
  /-- The name of a primitive type stands for a set that has the instances of every value type that
  is written with it. -/
  value : ∀ role o, m.rolePlayer role = some o → o.isEntity = false →
    s.of o ⊆ s.types (m.roleType role)

/-- A mandatory clause says that every instance of the type of its column occurs there. -/
theorem Population.mandatoryClause_holds_iff {V : Type} {P : Population V}
    {types : String → Set V} {m : Model} {c : MandatoryConstraint} {p : Predicate} {clause : Clause}
    (h : m.mandatoryClause c p = some clause) :
    ∃ role ∈ c.roleIds, role ∈ p.roleIds ∧
      (clause.Holds ⟨types, P.rows⟩ ↔ ∀ x ∈ types (m.roleType role), ∃ t ∈ P, t role = x) := by
  obtain ⟨role, hr, rfl⟩ := Option.map_eq_some_iff.mp h
  have hc : role ∈ c.roleIds := by simpa using List.find?_some hr
  have hp : role ∈ p.roleIds := List.mem_of_find?_eq_some hr
  have hv : "v" ≠ "_" := by decide
  refine ⟨role, hc, hp, ?_⟩
  simp only [Rel.holds_constraint, Rel.holds_implies, Rel.holds_type_atom hv, holds_bindRole hv hp]
  constructor
  · intro h x hx
    exact h (fun _ => x) hx
  · intro h ρ hρ
    exact h _ hρ

namespace Model

variable {m : Model} {f : FactType}

/-- Instances under which the type of a role has a value that does not occur at the role: `true` is
an instance of the type, but at no role does it occur that is not played by an entity type of the
same name. -/
def withForeignValue (m : Model) (type : String) : Instances Bool where
  tuples := [fun _ => false, fun role => (m.entityThatPlays role).any fun e => e.name == type]
  of o := {x | x = true → o.isEntity = true ∧ o.name = type}
  types name := {x | x = true → name = type}

theorem obeys_withForeignValue (m : Model) (f : FactType) (type : String) :
    (m.withForeignValue type).Obeys m f where
  player := by
    intro t ht role _ o ho hx
    rcases List.mem_cons.mp ht with rfl | ht
    · cases hx
    · obtain rfl := List.mem_singleton.mp ht
      cases he : m.entityThatPlays role with
      | none => simp [he] at hx
      | some e =>
        obtain ⟨hplays, hentity⟩ := entityThatPlays_eq_some he
        obtain rfl := Option.some.inj (ho.symm.trans hplays)
        simp only [he, Option.any_some, beq_iff_eq] at hx
        exact ⟨hentity, hx⟩
  mandatory := by
    intro c _ role _ o ho x hx
    cases x with
    | false => exact ⟨_, .head _, rfl⟩
    | true =>
      obtain ⟨he, hn⟩ := hx rfl
      refine ⟨_, .tail _ (.head _), ?_⟩
      simp [entityThatPlays, ho, Option.filter, he, hn]
  entity := by
    intro o _ he
    simp [withForeignValue, he]
  value := by
    intro role o ho hv x hx hx'
    have := (hx hx').1
    simp [hv] at this

/-- **When a mandatory clause is sound.** For each constraint over one role that is a column, the
clause is true of all instances that obey the model exactly if an entity type plays the role. -/
theorem mandatory_holds_iff {relations : List Predicate} {whole : List Clause} {p : Predicate}
    {c : MandatoryConstraint} {role : Id} {clause : Clause}
    (h : (m.relationsAndClauses f).result = .ok (relations, whole)) (hp : p ∈ relations)
    (hc : c ∈ m.mandatoryConstraintsOf f) (hrole : c.roleIds = [role])
    (hclause : m.mandatoryClause c p = some clause) :
    (∃ clauses, (m.factTypeClauses f).result = .ok clauses ∧ clause ∈ clauses) ∧
      ((∀ (V : Type) (s : Instances V), s.Obeys m f → clause.Holds ⟨s.types, s.tuples.rows⟩) ↔
        ∃ e, m.entityThatPlays role = some e) := by
  constructor
  · refine ⟨_, factTypeClauses_eq_ok_iff.mpr ⟨relations, whole, h, rfl⟩, ?_⟩
    refine List.mem_append_right _ (List.mem_flatMap.mpr ⟨p, hp, ?_⟩)
    exact List.mem_append_right _ (List.mem_filterMap.mpr ⟨c, hc, hclause⟩)
  · constructor
    · intro hall
      have hs := hall Bool _ (obeys_withForeignValue m f (m.roleType role))
      obtain ⟨role', hr', -, hiff⟩ := Population.mandatoryClause_holds_iff hclause
      obtain rfl : role' = role := by simpa [hrole] using hr'
      obtain ⟨t, ht, hocc⟩ := hiff.mp hs true fun _ => rfl
      rcases List.mem_cons.mp ht with rfl | ht
      · cases hocc
      · obtain rfl := List.mem_singleton.mp ht
        obtain ⟨e, he, -⟩ := (Option.any_eq_true _ _).mp hocc
        exact ⟨e, he⟩
    · rintro ⟨e, he⟩ V s hs
      obtain ⟨role', hr', hcol, hiff⟩ := Population.mandatoryClause_holds_iff hclause
      obtain rfl : role' = role := by simpa [hrole] using hr'
      rw [hiff, roleType_of_entityThatPlays he]
      obtain ⟨hplays, hentity⟩ := entityThatPlays_eq_some he
      obtain ⟨-, hmem, -⟩ := objectById_eq_some hplays
      rw [hs.entity e hmem hentity]
      exact hs.mandatory c hc _ hrole e hplays

end Model

/-! ## Nicknames -/

namespace Nicknames

/-- Every person has a nickname, and every nickname is somebody's. -/
def bears : FactType where
  id := some "bears"
  name := "PersonBearsNickname"
  roles := [{ id := some "who", factTypeId := some "bears", playerId := some "person" },
    { id := some "what", factTypeId := some "bears", playerId := some "nickname",
      name := "nickname" }]
  uniquenessIds := [some "one each"]
  mandatoryIds := [some "all named", some "all used"]

def model : Model where
  objects := [{ id := some "person", name := "Person", kind := .entity },
    { id := some "nickname", name := "Nickname", kind := .value, dataType := some "text" }]
  factTypes := [bears]
  uniquenessConstraints := [{ id := some "one each", roleIds := [some "who"] }]
  mandatoryConstraints := [{ id := some "all named", roleIds := [some "who"] },
    { id := some "all used", roleIds := [some "what"] }]
  dataTypes := [{ id := some "text", kind := "VariableLengthTextDataType" }]

/-- The relation from persons to nicknames. -/
def relation : Predicate := ⟨"nickname", some "one each", [some "who"], [some "what"]⟩

/-- The clause that every person has a nickname. -/
def personClause : Clause :=
  .constraint "person_mandatory_in_nickname" ["v"]
    (.implies (.atom (.type "Person") ["v"]) (.atom (.predicate relation) ["v", "_"]))

/-- The clause that every text is a nickname. -/
def textClause : Clause :=
  .constraint "string_mandatory_in_nickname" ["v"]
    (.implies (.atom (.type "String") ["v"]) (.atom (.predicate relation) ["_", "v"]))

theorem relationsAndClauses_bears : (model.relationsAndClauses bears).result =
    .ok ([relation], [manyOneClause (some "one each") relation]) := by
  rfl

theorem mandatoryClause_person :
    model.mandatoryClause { id := some "all named", roleIds := [some "who"] } relation =
      some personClause := by
  rfl

theorem mandatoryClause_text :
    model.mandatoryClause { id := some "all used", roleIds := [some "what"] } relation =
      some textClause := by
  rfl

/-- That every person has a nickname is true of all instances that obey the model. -/
theorem mandatory_holds_iff_person :
    (model.relationsAndClauses bears).result =
        .ok ([relation], [manyOneClause (some "one each") relation]) ∧
      model.mandatoryClause { id := some "all named", roleIds := [some "who"] } relation =
        some personClause ∧
      (∃ clauses, (model.factTypeClauses bears).result = .ok clauses ∧ personClause ∈ clauses) ∧
      ((∀ (V : Type) (s : Instances V), s.Obeys model bears →
          personClause.Holds ⟨s.types, s.tuples.rows⟩) ↔
        ∃ e, model.entityThatPlays (some "who") = some e) :=
  ⟨relationsAndClauses_bears, mandatoryClause_person,
    Model.mandatory_holds_iff relationsAndClauses_bears (.head _) (.head _) rfl
      mandatoryClause_person⟩

/-- That every nickname is used comes out as the clause that every text is a nickname, which is
false as soon as there is another text. -/
theorem mandatory_fails_on_values :
    ((model.objects.filter ObjectType.isEntity).map ObjectType.name).Nodup ∧
      bears.roleIds.Nodup ∧
      (∀ u ∈ model.uniquenessConstraintsOf bears, u.roleIds ⊆ bears.roleIds) ∧
      (∀ c ∈ model.mandatoryConstraintsOf bears, c.roleIds ⊆ bears.roleIds) ∧
      model.isUnary relation = false ∧
      ∃ clauses, (model.factTypeClauses bears).result = .ok clauses ∧ textClause ∈ clauses ∧
        ∃ s : Instances Bool, s.Obeys model bears ∧
          ¬ textClause.Holds ⟨s.types, s.tuples.rows⟩ := by
  have hc : (model.factTypeClauses bears).result =
      .ok [manyOneClause (some "one each") relation, model.typeClause relation, personClause,
        textClause] := by
    rfl
  refine ⟨by decide, by decide, by decide, by decide, by decide, _, hc, by simp, ?_⟩
  refine ⟨_, Model.obeys_withForeignValue model bears "String", fun h => ?_⟩
  obtain ⟨role, hr, -, hiff⟩ := Population.mandatoryClause_holds_iff mandatoryClause_text
  obtain rfl := List.mem_singleton.mp hr
  obtain ⟨t, ht, hocc⟩ := hiff.mp h true fun _ => rfl
  rcases List.mem_cons.mp ht with rfl | ht
  · cases hocc
  · obtain rfl := List.mem_singleton.mp ht
    revert hocc
    decide

end Nicknames

end RoleSchema
