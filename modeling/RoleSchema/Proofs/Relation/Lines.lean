import RoleSchema.Proofs.Hierarchy.Reach
import RoleSchema.Proofs.Rel.Lines
import RoleSchema.Proofs.Relation.Clauses

/-!
# Names on one line

All words of the clauses of a schema come of the names of a model: of object types, of fact types
and of roles, and of reference modes. If these are on one line, so is every word.

* `NamesOnOneLine.relations`: the names of the relations of a fact type.
* `NamesOnOneLine.factTypeClauses`, `NamesOnOneLine.walk`: the words of clauses.
-/

namespace RoleSchema

open RoleSchema.Rel (Predicate Clause Formula freshVariables)

/-- No name of an object type, a fact type or a role, and no reference mode, has a line feed. -/
structure Model.NamesOnOneLine (m : Model) : Prop where
  object : ∀ o ∈ m.objects, OneLine o.name
  referenceMode : ∀ o ∈ m.objects, OneLine o.referenceMode
  factType : ∀ f ∈ m.factTypes, OneLine f.name
  role : ∀ f ∈ m.factTypes, ∀ r ∈ f.roles, OneLine r.name

/-! ## Words of names -/

theorem oneLine_joinSmall {words : List (List Char)} (h : ∀ w ∈ words, '\n' ∉ w) :
    OneLine (joinSmall words) := by
  refine .intercalate (by decide) fun t ht => ?_
  obtain ⟨w, hw, rfl⟩ := List.mem_map.mp ht
  intro hmem
  rw [String.toList_ofList] at hmem
  exact h w hw (mem_of_mem_lowerChars (by decide) hmem)

theorem oneLine_snakeCase {name small : String} (hn : OneLine name)
    (h : snakeCase name = .ok small) : OneLine small := by
  unfold snakeCase at h
  split at h
  · cases h
  · next words hw =>
    cases h
    refine oneLine_joinSmall fun w hmem hfeed => hn ?_
    rw [← flatten_wordsOf (fun hnil => hw hnil)]
    exact List.mem_flatten.mpr ⟨w, hmem, hfeed⟩

/-- The characters of the word that is being read. -/
def LabelState.chars : LabelState → List Char
  | .between => []
  | .capitals last before => last :: before
  | .word chars => chars

/-- The words of a label have no other characters than the label. -/
theorem mem_of_mem_labelWordsFrom {c : Char} {state : LabelState} {cs w : List Char}
    (hw : w ∈ labelWordsFrom state cs) (hc : c ∈ w) : c ∈ state.chars ∨ c ∈ cs := by
  -- each step moves a character of the label into the word or drops it
  fun_induction labelWordsFrom state cs <;> grind [LabelState.chars]

theorem oneLine_modeToken {mode : String} (h : OneLine mode) : OneLine (modeToken mode) := by
  unfold modeToken
  split
  · next c rest hm =>
    split
    · refine oneLine_joinSmall fun w hw hfeed => h ?_
      have hmem := mem_of_mem_labelWordsFrom hw hfeed
      rw [hm]
      simpa [LabelState.chars] using hmem
    · exact h
  · exact h

theorem oneLine_numeral (n : Nat) : OneLine (toString n) := by
  intro hmem
  have hdigit := Nat.isDigit_of_mem_toDigits (by decide : 0 < 10) (by decide)
    (Nat.toList_repr ▸ hmem)
  exact absurd hdigit (by decide)

theorem oneLine_freshVariables {n : Nat} : ∀ v ∈ freshVariables n, OneLine v := by
  intro v h
  obtain ⟨i, -, rfl⟩ := List.mem_map.mp h
  exact OneLine.append (by decide) (oneLine_numeral (i + 1))

theorem oneLine_primitiveOf? (dataType : Option DataType) : OneLine (primitiveOf? dataType) := by
  cases dataType with
  | none => decide
  | some d =>
    simp only [primitiveOf?, primitiveOf]
    split_ifs <;> decide

namespace Model.NamesOnOneLine

variable {m : Model} (hm : m.NamesOnOneLine) {f : FactType}

include hm

/-! ## Types and players -/

theorem roleType (role : Id) : OneLine (m.roleType role) := by
  unfold Model.roleType
  split
  · next e he =>
    have hplayer := (entityThatPlays_eq_some he).1
    exact hm.object e (objectById_eq_some hplayer).2.1
  · exact oneLine_primitiveOf? _

theorem playerName {role : Id} {name : String} (h : m.playerName role = .ok name) :
    OneLine name := by
  unfold Model.playerName at h
  split at h
  · next o ho => exact oneLine_snakeCase (hm.object o (objectById_eq_some ho).2.1) h
  · cases h

/-! ## Relations -/

theorem identifierLabel {entity : ObjectType} {identifier : Role} {label : String}
    (he : entity ∈ m.objects) (h : m.identifierLabel entity identifier = .ok label) :
    OneLine label := by
  unfold Model.identifierLabel at h
  split at h
  · cases h
    exact oneLine_modeToken (hm.referenceMode entity he)
  · exact hm.playerName h

/-- A name that is given or made of the label of the identifier. -/
theorem nameOrLabel {entity : ObjectType} {identifier role : Role} {build : String → String}
    {name : String} (he : entity ∈ m.objects) (hr : OneLine role.name)
    (hb : ∀ label, OneLine label → OneLine (build label))
    (h : (if role.name ≠ "" then .ok role.name
      else ((m.identifierLabel entity identifier).mapError SchemaFault.naming).map build) =
        .ok name) : OneLine name := by
  split at h
  · cases h
    exact hr
  · obtain ⟨label, hlabel, rfl⟩ := map_eq_ok_iff.mp h
    exact hb label (hm.identifierLabel he (mapError_eq_ok_iff.mp hlabel))

theorem referenceModeRelations {r : ReferenceMode} {rel : ReferenceModeRelations}
    (hf : f ∈ m.factTypes) (hr : m.Identifies f r) (h : m.referenceModeRelations r = .ok rel) :
    OneLine rel.forward.name ∧ OneLine rel.inverse.name := by
  have hentity : r.entity ∈ m.objects :=
    (objectById_eq_some (entityById_eq_some hr.identified).1).2.1
  unfold Model.referenceModeRelations at h
  obtain ⟨entity, hname, h⟩ := bind_eq_ok_iff.mp h
  have hname : OneLine entity :=
    oneLine_snakeCase (hm.object _ hentity) (mapError_eq_ok_iff.mp hname)
  split at h
  · cases h
  · next identifier hi =>
    have hidentifier := hm.role f hf identifier (hr.identifierRole_spec hi).1
    have hrole := hm.role f hf r.entityRole hr.entityRole_mem
    simp only [ite_bind] at h
    obtain ⟨forward, hforward, h⟩ := bind_eq_ok_iff.mp h
    obtain ⟨inverse, hinverse, h⟩ := bind_eq_ok_iff.mp h
    cases h
    constructor
    · refine hm.nameOrLabel hentity hidentifier (fun label hl => ?_) hforward
      exact (hname.append (by decide)).append hl
    · refine hm.nameOrLabel hentity hrole (fun label hl => ?_) hinverse
      exact (hl.append (by decide)).append hname

theorem relationsFor {relations : List Predicate} (hf : f ∈ m.factTypes)
    (h : (m.relationsFor f).result = .ok relations) : ∀ p ∈ relations, OneLine p.name := by
  intro p hp
  rw [result_relationsFor] at h
  split at h
  · cases h
    obtain ⟨r, hr, hp⟩ := List.mem_filterMap.mp hp
    unfold namedRelation? at hp
    split at hp
    · cases hp
    · obtain ⟨u, -, rfl⟩ := Option.map_eq_some_iff.mp hp
      exact hm.role f hf r hr
  · rcases systemNamedRelations_eq_ok h with rfl | ⟨u, name, -, hname, rfl⟩
    · cases hp
    · rw [List.mem_singleton.mp hp]
      exact oneLine_snakeCase (hm.factType f hf) hname

theorem relations {relations : List Predicate} {whole : List Clause} (hf : f ∈ m.factTypes)
    (h : (m.relationsAndClauses f).result = .ok (relations, whole)) :
    ∀ p ∈ relations, OneLine p.name := by
  rcases relationsAndClauses_eq_ok h with ⟨r, rel, hmode, hr, rfl, -⟩ | ⟨-, hr, -⟩
  · have hnames := hm.referenceModeRelations hf (identifies_of_match hmode) hr
    simpa using hnames
  · exact hm.relationsFor hf hr

/-! ## Clauses of fact types -/

section

variable {p : Predicate} (hp : OneLine p.name)

include hp

omit hm in
theorem manyOneClause (u : Id) : (manyOneClause u p).SingleLined := by
  unfold RoleSchema.manyOneClause
  split
  · exact ⟨hp.append (by decide), by simp, hp⟩
  · exact OneLine.append (s := _ ++ _) (by decide) hp

theorem containmentIn (role : Id) : (m.containmentIn p role).SingleLined := by
  have hv : ∀ v ∈ ["v"], OneLine v := by decide
  exact ⟨hp.append (by decide), by simp, ⟨hp, hv⟩, hm.roleType role, hv⟩

theorem typeClause : (m.typeClause p).SingleLined := by
  have hvars := oneLine_freshVariables (n := p.roleIds.length)
  refine ⟨hp.append (by decide), hvars, ⟨hp, hvars⟩, ?_⟩
  refine Rel.allSingleLined_iff.mpr fun atom ha => ?_
  obtain ⟨⟨role, v⟩, hc, rfl⟩ := List.mem_map.mp ha
  have hv := hvars v (List.of_mem_zip hc).2
  exact ⟨hm.roleType role, by simpa using hv⟩

theorem mandatoryClause {c : MandatoryConstraint} {clause : Clause}
    (h : m.mandatoryClause c p = some clause) : clause.SingleLined := by
  obtain ⟨role, -, rfl⟩ := Option.map_eq_some_iff.mp h
  have htype := hm.roleType role
  have hname : OneLine (Text.lower (m.roleType role) ++ "_mandatory_in_" ++ p.name) :=
    (htype.lower.append (by decide)).append hp
  have hv : ∀ v ∈ ["v"], OneLine v := by decide
  refine ⟨hname, hv, ⟨htype, hv⟩, hp, fun arg ha => ?_⟩
  obtain ⟨r, -, rfl⟩ := List.mem_map.mp ha
  split <;> decide

theorem wholeClausesOf : ∀ c ∈ m.wholeClausesOf f p, c.SingleLined := by
  intro c hc
  unfold Model.wholeClausesOf at hc
  split at hc
  · obtain ⟨role, -, rfl⟩ := List.mem_map.mp hc
    exact hm.containmentIn hp role
  · obtain ⟨u, -, rfl⟩ := List.mem_map.mp hc
    exact manyOneClause hp u

theorem columnClausesOf : ∀ c ∈ m.columnClausesOf f p, c.SingleLined := by
  intro c hc
  rcases List.mem_append.mp hc with hc | hc
  · split at hc
    · cases hc
    · rw [List.mem_singleton.mp hc]
      exact hm.typeClause hp
  · obtain ⟨constraint, -, hc⟩ := List.mem_filterMap.mp hc
    exact hm.mandatoryClause hp hc

end

/-- The clauses of a fact type are single-lined. -/
theorem factTypeClauses {clauses : List Clause} (hf : f ∈ m.factTypes)
    (h : (m.factTypeClauses f).result = .ok clauses) : ∀ c ∈ clauses, c.SingleLined := by
  obtain ⟨relations, whole, hr, rfl⟩ := factTypeClauses_eq_ok_iff.mp h
  have hnames := hm.relations hf hr
  have hwhole : ∀ c ∈ whole, c.SingleLined := by
    rcases relationsAndClauses_eq_ok hr with ⟨r, rel, -, -, rfl, rfl⟩ | ⟨-, -, rfl⟩
    · have hinverse := hnames rel.inverse (by simp)
      have hforward := hnames rel.forward (by simp)
      simpa using ⟨manyOneClause hinverse _, manyOneClause hforward _⟩
    · intro c hc
      obtain ⟨p, hp, hc⟩ := List.mem_flatMap.mp hc
      exact hm.wholeClausesOf (hnames p hp) c hc
  intro c hc
  rcases List.mem_append.mp hc with hc | hc
  · exact hwhole c hc
  · obtain ⟨p, hp, hc⟩ := List.mem_flatMap.mp hc
    exact hm.columnClausesOf (hnames p hp) c hc

/-! ## Clauses about concepts -/

omit hm in
theorem containmentClause {name sub super : String} (hname : OneLine name) (hsub : OneLine sub)
    (hsuper : OneLine super) : (containmentClause name sub super).SingleLined := by
  have hv : ∀ v ∈ ["v"], OneLine v := by decide
  exact ⟨hname, hv, ⟨hsub, hv⟩, hsuper, hv⟩

omit hm in
theorem mem_objects_of_mem_superTypes {e super : ObjectType} (h : super ∈ m.superTypes e) :
    super ∈ m.objects := by
  obtain ⟨s, -, hs⟩ := List.mem_filterMap.mp h
  split at hs
  · exact (objectById_eq_some (entityById_eq_some hs).1).2.1
  · cases hs

theorem placementClauses {e : ObjectType} {clauses : List Clause} (he : e ∈ m.objects)
    (h : m.placementClauses e = .ok clauses) : ∀ c ∈ clauses, c.SingleLined := by
  intro c hc
  have hname := hm.object e he
  unfold Model.placementClauses at h
  split at h
  · obtain ⟨clause, htop, rfl⟩ := map_eq_ok_iff.mp h
    rw [List.mem_singleton.mp hc]
    obtain ⟨small, hs, htop⟩ := bind_eq_ok_iff.mp htop
    cases htop
    have hsmall := oneLine_snakeCase hname hs
    exact containmentClause (hsmall.append (by decide)) hname (by decide)
  · obtain ⟨super, hsuper, hsub⟩ := exists_of_mem_of_mapM h c hc
    have hsuper := hm.object super (mem_objects_of_mem_superTypes hsuper)
    obtain ⟨small, hs, hsub⟩ := bind_eq_ok_iff.mp hsub
    obtain ⟨smallSuper, hss, hsub⟩ := bind_eq_ok_iff.mp hsub
    cases hsub
    have hsmall := oneLine_snakeCase hname hs
    have hsmallSuper := oneLine_snakeCase hsuper hss
    exact containmentClause ((hsmall.append (by decide)).append hsmallSuper) hname hsuper

/-- The clauses that place a concept and its subtypes are single-lined. -/
theorem walk {d : Diagram} {e : ObjectType} (he : e ∈ m.objects) :
    ∀ c ∈ (m.walk d [] e).clauses, c.SingleLined := by
  intro c hc
  rw [(walk_comesOf d [] e).1] at hc
  obtain ⟨e', hreached, hc⟩ := List.mem_flatMap.mp hc
  have he' : e' ∈ m.objects := by
    obtain ⟨t, ht, hreaches⟩ := exists_reaches_of_mem_reach _ _ e' hreached
    obtain rfl := List.mem_singleton.mp ht
    cases hreaches with
    | refl => exact he
    | tail _ hs =>
      obtain ⟨s, -, -, hs⟩ := mem_subTypes_iff.mp hs
      exact (objectById_eq_some (entityById_eq_some hs).1).2.1
  unfold Model.placement at hc
  split at hc
  · split at hc
    · next clauses hclauses => exact hm.placementClauses he' hclauses c hc
    · cases hc
  · cases hc

end Model.NamesOnOneLine

end RoleSchema
