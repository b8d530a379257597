import RoleSchema.Proofs.Schema.Isolation

/-!
# No fact type is left out without a word

A section without a clause stands for a fact type that has no relation, or whose clauses cannot be
written. Either way a finding about the fact type or one of its roles says so, with one exception: a
fact type that only says whether something holds, and whose named roles are spanned by all its
uniqueness constraints (`Model.Silenced`), has no relation and no finding.

* `Silenced.factTypeSection`: the section of the exception.
* `no_section_silent`: all sections of a schema.
-/

namespace RoleSchema

open RoleSchema.Rel (Predicate Clause headerLine sectionLines)

namespace Model

/-- A fact type that only says whether something holds has named roles, and none of them has a
key. -/
structure Silenced (m : Model) (f : FactType) : Prop where
  unary : ∃ role ∈ f.roleIds, m.isImplicitBoolean role = true
  named : f.hasNamedRoles = true
  spanned : ∀ r ∈ f.roles, r.name ≠ "" → ∀ u ∈ m.uniquenessConstraintsOf f, r.id ∈ u.roleIds

variable {m : Model} {f : FactType}

/-! ## No clauses and no relations -/

/-- Every relation has a clause about it: a set about its key, any other one about its columns. -/
theorem clausesOf_ne_nil (p : Predicate) : m.wholeClausesOf f p ++ m.columnClausesOf f p ≠ [] := by
  cases h : m.isUnary p with
  | true =>
    obtain ⟨key, -, -, hk, -⟩ := columns_of_isUnary h
    simp [wholeClausesOf, h, hk]
  | false => simp [columnClausesOf, h]

/-- A fact type without clauses is no reference mode, and has no relation. -/
theorem relationsFor_of_no_clauses (h : (m.factTypeClauses f).result = .ok []) :
    m.matchReferenceMode f = .ok none ∧ (m.relationsFor f).result = .ok [] := by
  obtain ⟨relations, whole, hr, hc⟩ := factTypeClauses_eq_ok_iff.mp h
  obtain ⟨hwhole, hcolumns⟩ := List.append_eq_nil_iff.mp hc.symm
  rcases relationsAndClauses_eq_ok hr with ⟨r, rel, -, -, -, rfl⟩ | ⟨hmode, hnames, rfl⟩
  · cases hwhole
  · refine ⟨hmode, ?_⟩
    have hnone : relations = [] := by
      refine List.eq_nil_iff_forall_not_mem.mpr fun p hp => ?_
      have hw := List.flatMap_eq_nil_iff.mp hwhole p hp
      have hc := List.flatMap_eq_nil_iff.mp hcolumns p hp
      exact clausesOf_ne_nil p (List.append_eq_nil_iff.mpr ⟨hw, hc⟩)
    rw [hnames, hnone]

/-- The section of a fact type without relations is its header, and what is found in it is what the
search for relations finds. -/
theorem factTypeSection_of_no_relations (hmode : m.matchReferenceMode f = .ok none)
    (h : (m.relationsFor f).result = .ok []) :
    (m.factTypeSection f).result = .ok [headerLine (factTypeHeader f)] ∧
      (m.factTypeSection f).diagnostics = (m.relationsFor f).diagnostics := by
  have hnames : m.relationsFor f = ⟨(m.relationsFor f).events, .ok []⟩ := by rw [← h]
  generalize (m.relationsFor f).events = found at hnames
  have hrelations : m.relationsAndClauses f = ⟨found ++ [], .ok ([], [])⟩ := by
    unfold relationsAndClauses
    rw [hmode, hnames]
    rfl
  have hclauses : m.factTypeClauses f = ⟨found ++ [] ++ [], .ok []⟩ := by
    unfold factTypeClauses
    rw [hrelations]
    rfl
  have hlines : m.factTypeLines f =
      ⟨found ++ [] ++ [] ++ [], .ok [headerLine (factTypeHeader f)]⟩ := by
    unfold factTypeLines
    rw [hclauses]
    rfl
  unfold factTypeSection Reporting.recover
  rw [hlines, hnames]
  refine ⟨rfl, ?_⟩
  simp only [Reporting.diagnostics, List.append_nil]

/-! ## Named roles -/

/-- Named roles give no relation exactly if every constraint spans each of them. -/
theorem no_named_relation_iff :
    f.roles.filterMap (m.namedRelation? f) = [] ↔
      ∀ r ∈ f.roles, r.name ≠ "" → ∀ u ∈ m.uniquenessConstraintsOf f, r.id ∈ u.roleIds := by
  rw [List.filterMap_eq_nil_iff]
  refine forall₂_congr fun r _ => ?_
  rw [← uniquenessExcludingRole_eq_none_iff]
  by_cases hname : r.name = ""
  · simp [namedRelation?, hname]
  · simp [namedRelation?, hname]

/-- Named roles without a relation are silenced, or one of them is reported. -/
theorem silenced_or_unkeyed (hnamed : f.hasNamedRoles = true)
    (h : f.roles.filterMap (m.namedRelation? f) = []) :
    m.Silenced f ∨ ∃ r ∈ f.roles, m.unkeyed? f r = some (.unkeyedNamedRole f r) := by
  have hspanned := no_named_relation_iff.mp h
  by_cases hunary : f.roleIds.any m.isImplicitBoolean = true
  · exact Or.inl ⟨List.any_eq_true.mp hunary, hnamed, hspanned⟩
  · right
    obtain ⟨r, hr, hname⟩ := List.any_eq_true.mp hnamed
    have hname : r.name ≠ "" := by simpa using hname
    have hkey := uniquenessExcludingRole_eq_none_iff.mpr (hspanned r hr hname)
    refine ⟨r, hr, ?_⟩
    unfold unkeyed?
    rw [hkey, if_neg (by simp [hname, hunary])]

/-! ## Sections -/

/-- A fact type without relations is silenced, or a finding about it or one of its roles says so. -/
theorem silenced_or_found (h : (m.relationsFor f).result = .ok []) :
    m.Silenced f ∨ ∃ finding ∈ (m.relationsFor f).diagnostics,
      finding.element = f.id ∨ finding.element ∈ f.roleIds := by
  rw [result_relationsFor] at h
  rw [diagnostics_relationsFor]
  split at h
  · next hnamed =>
    rw [if_pos hnamed]
    injection h with h
    refine (silenced_or_unkeyed hnamed h).imp_right ?_
    rintro ⟨r, hr, hfinding⟩
    exact ⟨_, List.mem_filterMap.mpr ⟨r, hr, hfinding⟩, Or.inr (List.mem_map_of_mem hr)⟩
  · next hnamed =>
    right
    rw [if_neg hnamed]
    unfold undetermined?
    rcases hu : m.uniquenessConstraintsOf f with _ | ⟨u, _ | ⟨v, rest⟩⟩
    · exact ⟨_, List.mem_singleton_self _, Or.inl rfl⟩
    · -- one constraint makes a relation, or the name of the fact type is a fault
      simp only [systemNamedRelations, hu] at h
      obtain ⟨name, -, h⟩ := Reporting.result_bind_eq_ok_iff.mp h
      cases h
    · exact ⟨_, List.mem_singleton_self _, Or.inl rfl⟩

/-- A section without a clause is that of a silenced fact type, or a finding about the fact type or
one of its roles says why. -/
theorem silenced_or_reported
    (h : (m.factTypeSection f).result = .ok [headerLine (factTypeHeader f)]) :
    m.Silenced f ∨ ∃ finding ∈ (m.factTypeSection f).diagnostics,
      finding.element = f.id ∨ finding.element ∈ f.roleIds := by
  obtain ⟨hrepeats, helsewhere⟩ := returns_factTypeSection_iff.mp ⟨_, h⟩
  cases hlines : (m.factTypeLines f).result with
  | error fault =>
    right
    have hreported : fault.IsReported := by
      rcases factTypeLines_eq_error hlines with hf | ⟨-, hr⟩ | ⟨-, he⟩
      · exact hf
      · exact absurd hr hrepeats
      · exact absurd he helsewhere
    obtain ⟨finding, hid, hs⟩ := factTypeSection_of_isReported hlines hreported
    refine ⟨finding, ?_, Or.inl hid⟩
    rw [hs]
    exact List.mem_filterMap.mpr ⟨.diagnostic finding, by simp, rfl⟩
  | ok lines =>
    obtain ⟨clauses, hc, hsection⟩ := factTypeLines_eq_ok_iff.mp hlines
    obtain ⟨texts, ht, hsection⟩ := bind_eq_ok_iff.mp hsection
    cases hsection
    obtain rfl : texts = [] := by
      simpa only [factTypeSection, Reporting.recover, hlines, Except.ok.injEq, List.cons.injEq,
        true_and] using h
    cases forall₂_of_mapM ht
    obtain ⟨hmode, hrelations⟩ := relationsFor_of_no_clauses hc
    rw [(factTypeSection_of_no_relations hmode hrelations).2]
    exact silenced_or_found hrelations

/-- The exception is real: the section is the header, and nothing is found. -/
theorem Silenced.factTypeSection (h : m.Silenced f) (hmode : m.matchReferenceMode f = .ok none) :
    (m.factTypeSection f).result = .ok [headerLine (factTypeHeader f)] ∧
      (m.factTypeSection f).diagnostics = [] := by
  have hrelations : (m.relationsFor f).result = .ok [] := by
    rw [result_relationsFor, if_pos h.named, no_named_relation_iff.mpr h.spanned]
  have hfound : (m.relationsFor f).diagnostics = [] := by
    have hunary : f.roleIds.any m.isImplicitBoolean = true := List.any_eq_true.mpr h.unary
    rw [diagnostics_relationsFor, if_pos h.named]
    exact List.filterMap_eq_nil_iff.mpr fun r _ => by simp [unkeyed?, hunary]
  rw [← hfound]
  exact factTypeSection_of_no_relations hmode hrelations

/-- **No fact type is left out without a word.** The schema of a diagram places its concept and has
a section for each of its fact types, and its findings are those of the sections, after those found
before. If a section is only its header, it is that of a silenced fact type, or something found
while it was built is about the fact type or one of its roles. A silenced fact type that is no
reference mode has no clause and no finding. -/
theorem no_section_silent {template : String} {d : Diagram} {a : Artifact}
    (h : (m.schemaFor template d).result = .ok (some a)) :
    (∃ e, m.resolveConcept d = .ok e ∧
      a.lines = (m.conceptSection e d).value ++
        (m.factTypesOn d).flatMap (fun f => "" :: m.sectionOf f) ∧
      (m.schemaFor template d).diagnostics =
        (m.conceptSection e d).diagnostics ++ (m.factTypesFor e d).diagnostics ++
          (m.factTypesOn d).flatMap fun f => (m.factTypeSection f).diagnostics) ∧
    ∀ f ∈ m.factTypesOn d, (m.factTypeSection f).result = .ok (m.sectionOf f) ∧
      (m.sectionOf f = [headerLine (factTypeHeader f)] →
        m.Silenced f ∨ ∃ finding ∈ (m.factTypeSection f).diagnostics,
          finding.element = f.id ∨ finding.element ∈ f.roleIds) ∧
      (m.Silenced f → m.matchReferenceMode f = .ok none →
        m.sectionOf f = [headerLine (factTypeHeader f)] ∧
          (m.factTypeSection f).diagnostics = []) := by
  obtain ⟨e, he, ha⟩ := concept_of_schemaFor h
  obtain ⟨hreturns, filename, -, rfl⟩ := schemaOf_eq_ok_iff.mp ha
  rw [factTypesOn_eq he, schemaFor_of_ok he]
  refine ⟨⟨e, he, rfl, diagnostics_schemaOf ⟨_, ha⟩⟩, fun f hf => ?_⟩
  have hsection : (m.factTypeSection f).result = .ok (m.sectionOf f) := (hreturns f hf).result_eq
  refine ⟨hsection, fun hempty => ?_, fun hsilenced hmode => ?_⟩
  · exact silenced_or_reported (hempty ▸ hsection)
  · obtain ⟨hheader, hfound⟩ := hsilenced.factTypeSection hmode
    exact ⟨Reporting.value_of_ok hheader, hfound⟩

end Model

/-! ## Lamps -/

namespace Lamps

/-- Whether a lamp is lit, a role with a name. -/
def lit : FactType where
  id := some "lit"
  name := "LampIsLit"
  roles :=
    [{ id := some "lamp", factTypeId := some "lit", playerId := some "Lamp", name := "burns" },
      { id := some "state", factTypeId := some "lit", playerId := some "LitBoolean" }]
  uniquenessIds := [some "once lit"]

/-- The places of lamps, without a uniqueness constraint. -/
def stands : FactType where
  id := some "stands"
  name := "LampStandsInRoom"
  roles :=
    [{ id := some "standing", factTypeId := some "stands", playerId := some "Lamp" },
      { id := some "room", factTypeId := some "stands", playerId := some "Room" }]

def diagram : Diagram where
  id := some "diagram"
  name := "Lamp:concept"
  subjectRefs := [some "Lamp", some "lit", some "stands"]
  factTypeRefs := [some "lit", some "stands"]

def model : Model where
  objects :=
    [{ id := some "Lamp", name := "Lamp", kind := .entity },
      { id := some "Room", name := "Room", kind := .entity },
      { id := some "LitBoolean", name := "LitBoolean", kind := .value, isImplicitBoolean := true }]
  factTypes := [lit, stands]
  uniquenessConstraints := [{ id := some "once lit", roleIds := [some "lamp"] }]
  diagrams := [diagram]

def artifact : Artifact where
  concept := "Lamp"
  diagram := "Lamp:concept"
  filename := "lamp_schema.rel"
  lines := ["", "// Constraints for the 'Lamp' concept and its subtypes",
    "ic lamp_is_entity(v) \x7b Lamp(v) implies Entity(v) \x7d", "",
    "// Constraints for relations modeled by the 'LampIsLit' fact type", "",
    "// Constraints for relations modeled by the 'LampStandsInRoom' fact type"]

theorem silenced_lit : model.Silenced lit where
  unary := by decide
  named := by decide
  spanned := by decide

/-- Both fact types on the diagram have a section without a clause: one is silenced, and of the
other it is found that it has no uniqueness constraint. -/
theorem no_section_silent_lamps :
    (model.schemaFor defaultTemplate diagram).result = .ok (some artifact) ∧
      model.factTypesOn diagram = [lit, stands] ∧
      (model.sectionOf lit = [headerLine (factTypeHeader lit)] ∧
        (model.factTypeSection lit).diagnostics = []) ∧
      (model.sectionOf stands = [headerLine (factTypeHeader stands)] ∧ ¬ model.Silenced stands ∧
        ∃ finding ∈ (model.factTypeSection stands).diagnostics,
          finding.element = stands.id ∨ finding.element ∈ stands.roleIds) := by
  have hschema : (model.schemaFor defaultTemplate diagram).result = .ok (some artifact) := by
    decide +kernel
  have hfacts : model.factTypesOn diagram = [lit, stands] := by decide +kernel
  have hstands : model.sectionOf stands = [headerLine (factTypeHeader stands)] := by
    decide +kernel
  have hnamed : ¬ model.Silenced stands := fun h => absurd h.named (by decide)
  obtain ⟨-, hsections⟩ := Model.no_section_silent hschema
  have hlit := (hsections lit (by simp [hfacts])).2.2 silenced_lit (by decide)
  have hreported := (hsections stands (by simp [hfacts])).2.1 hstands
  exact ⟨hschema, hfacts, hlit, hstands, hnamed, hreported.resolve_left hnamed⟩

end Lamps

end RoleSchema
