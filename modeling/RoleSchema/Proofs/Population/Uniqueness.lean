import RoleSchema.Proofs.Population.Basic

/-!
# Functions and uniqueness constraints

A relation is said to be a function for the uniqueness constraint that its key comes from. Every
population that obeys the uniqueness constraints bears this out if the constraint leaves out a role
of the fact type. A constraint that spans all roles forbids nothing, while `function(p)` still makes
the last column depend on the others, so that there the clause rules out populations that obey every
constraint.

* `Model.function_holds_iff`: the exact condition.
* `Courses.function_fails_on_spanning`: a fact type of two roles with one constraint over both.
-/

namespace RoleSchema

open RoleSchema.Rel (Predicate Formula Clause Interpretation)

/-- The uniqueness constraints that a fact type lists are found, and each spans roles of the fact
type, none of them twice. -/
def Model.UniquenessWithin (m : Model) (f : FactType) : Prop :=
  ∀ id ∈ f.uniquenessIds, ∃ u, m.uniquenessById id = some u ∧ u.roleIds.Nodup ∧
    u.roleIds ⊆ f.roleIds

/-! ## What a population says of a function -/

namespace Population

variable {V : Type} {P : Population V} {f : FactType} {p : Predicate}

/-- If the key comes before the last column, a population that obeys it makes the relation a
function. -/
theorem function_holds {types : String → Set V} {ρ : String → V} {u : UniquenessConstraint}
    (hu : P.Obeys f u) (hkey : u.roleIds ⊆ p.roleIds.dropLast) (hcol : p.roleIds ⊆ f.roleIds) :
    (Formula.function (.predicate p)).Holds ⟨types, P.rows⟩ ρ := by
  simp only [Formula.Holds, Interpretation.relation]
  rintro _ ⟨s, hs, rfl⟩ _ ⟨t, ht, rfl⟩ h
  rw [← List.map_dropLast, ← List.map_dropLast, List.map_inj_left] at h
  have hst := hu s hs t ht fun role hr => h role (hkey hr)
  exact List.map_inj_left.mpr fun role hr => hst role (hcol hr)

/-- If every constraint spans the last column, two tuples that differ only there obey all of them,
and the relation is no function. -/
theorem exists_obeys_not_function {us : List UniquenessConstraint} {init : List Id} {last : Id}
    (hp : p.roleIds = init ++ [last]) (hl : last ∉ init) (hus : ∀ u ∈ us, last ∈ u.roleIds)
    (types : String → Set Bool) (ρ : String → Bool) :
    ∃ P : Population Bool, (∀ u ∈ us, P.Obeys f u) ∧
      ¬ (Formula.function (.predicate p)).Holds ⟨types, P.rows⟩ ρ := by
  refine ⟨[fun _ => false, fun role => role == last], fun u hu s hs t ht h => ?_, fun h => ?_⟩
  · have hlast := h last (hus u hu)
    simp only [List.mem_cons, List.not_mem_nil, or_false] at hs ht
    rcases hs with rfl | rfl
    · rcases ht with rfl | rfl
      · exact fun _ _ => rfl
      · simp at hlast
    · rcases ht with rfl | rfl
      · simp at hlast
      · exact fun _ _ => rfl
  · simp only [Formula.Holds, Interpretation.relation] at h
    have heq : p.roleIds.map (fun _ => false) = p.roleIds.map fun role => role == last := by
      refine h _ ⟨_, by simp, rfl⟩ _ ⟨_, .tail _ (.head _), rfl⟩ ?_
      rw [← List.map_dropLast, ← List.map_dropLast, hp, List.dropLast_concat, List.map_inj_left]
      intro role hr
      have hne : role ≠ last := fun h => hl (h ▸ hr)
      simp [hne]
    have hlast := List.map_inj_left.mp heq last (by simp [hp])
    simp at hlast

end Population

/-! ## The key of a relation -/

/-- The relation `p` has its columns among the roles of the fact type and its key from `u`. Either
the roles of `u` come before the last column and leave out a role, or `u` spans every role and no
uniqueness constraint leaves out the last column. -/
structure Model.KeyedBy (m : Model) (f : FactType) (p : Predicate) (u : UniquenessConstraint) :
    Prop where
  mem : u ∈ m.uniquenessConstraintsOf f
  id_eq : u.id = p.uniqueness
  columns : p.roleIds ⊆ f.roleIds
  key : (u.roleIds ⊆ p.roleIds.dropLast ∧ (f.roles = [] ∨ ∃ role ∈ f.roleIds, role ∉ u.roleIds)) ∨
    (f.roles ≠ [] ∧ (∀ role ∈ f.roleIds, role ∈ u.roleIds) ∧
      ∃ init last, p.roleIds = init ++ [last] ∧ last ∉ init ∧
        ∀ v ∈ m.uniquenessConstraintsOf f, last ∈ v.roleIds)

namespace Model

variable {m : Model} {f : FactType}

/-- The constraint with a listed id, and its roles. -/
theorem UniquenessWithin.constraint (hf : m.UniquenessWithin f) {id : Id}
    (hid : id ∈ f.uniquenessIds) :
    ∃ u ∈ m.uniquenessConstraintsOf f, u.id = id ∧ m.uniquenessById id = some u ∧
      u.roleIds.Nodup ∧ u.roleIds ⊆ f.roleIds := by
  obtain ⟨u, hu, hn, hs⟩ := hf id hid
  exact ⟨u, mem_uniquenessConstraintsOf.mpr ⟨id, hid, hu⟩, (uniquenessById_eq_some hu).2.2, hu,
    hn, hs⟩

theorem UniquenessWithin.of_mem (hf : m.UniquenessWithin f) {u : UniquenessConstraint}
    (hu : u ∈ m.uniquenessConstraintsOf f) : u.roleIds.Nodup ∧ u.roleIds ⊆ f.roleIds := by
  obtain ⟨hid, hu⟩ := uniquenessById_of_mem hu
  obtain ⟨v, hv, hn, hs⟩ := hf _ hid
  obtain rfl : v = u := Option.some.inj (hv.symm.trans hu)
  exact ⟨hn, hs⟩

theorem keyedBy_named (hf : m.UniquenessWithin f) {r : Role} {u : UniquenessConstraint}
    (hr : r ∈ f.roles) (hu : m.uniquenessExcludingRole r.id f = some u) :
    m.KeyedBy f ⟨r.name, u.id, u.roleIds, [r.id]⟩ u := by
  obtain ⟨hmem, hout⟩ := uniquenessExcludingRole_eq_some hu
  have hid : r.id ∈ f.roleIds := List.mem_map_of_mem hr
  refine ⟨hmem, rfl, ?_, Or.inl ⟨?_, Or.inr ⟨r.id, hid, hout⟩⟩⟩
  · exact List.append_subset.mpr ⟨(hf.of_mem hmem).2, by simpa using hid⟩
  · simp [Predicate.roleIds]

theorem keyedBy_whole (hf : m.UniquenessWithin f) {u : UniquenessConstraint} (name : String)
    (hu : m.uniquenessConstraintsOf f = [u]) :
    m.KeyedBy f ⟨name, u.id, u.roleIds, f.rolesExcludedBy u⟩ u := by
  have hmem : u ∈ m.uniquenessConstraintsOf f := by simp [hu]
  obtain ⟨hn, hs⟩ := hf.of_mem hmem
  have hvalue : f.rolesExcludedBy u ⊆ f.roleIds := fun role h =>
    (FactType.mem_rolesExcludedBy.mp h).1
  refine ⟨hmem, rfl, List.append_subset.mpr ⟨hs, hvalue⟩, ?_⟩
  by_cases hv : f.rolesExcludedBy u = []
  · by_cases hnil : f.roles = []
    · left
      have : u.roleIds = [] := List.subset_nil.mp (by simpa [FactType.roleIds, hnil] using hs)
      simp [this, hnil]
    · right
      have hall : ∀ role ∈ f.roleIds, role ∈ u.roleIds := by
        intro role hr
        by_contra hout
        have := FactType.mem_rolesExcludedBy.mpr ⟨hr, hout⟩
        simp [hv] at this
      refine ⟨hnil, hall, ?_⟩
      rcases List.eq_nil_or_concat u.roleIds with hu0 | ⟨init, last, hlast⟩
      · obtain ⟨r, hr⟩ := List.exists_mem_of_ne_nil _ hnil
        have := hall r.id (List.mem_map_of_mem hr)
        simp [hu0] at this
      · rw [List.concat_eq_append] at hlast
        rw [hlast] at hn
        refine ⟨init, last, by simp [Predicate.roleIds, hv, hlast], ?_, by simp [hu, hlast]⟩
        intro h
        exact (List.nodup_append.mp hn).2.2 last h last (by simp) rfl
  · left
    obtain ⟨role, hr⟩ := List.exists_mem_of_ne_nil _ hv
    refine ⟨?_, Or.inr ⟨role, FactType.mem_rolesExcludedBy.mp hr⟩⟩
    rw [Predicate.roleIds, List.dropLast_append_of_ne_nil hv]
    exact List.subset_append_left _ _

theorem keyedBy_inverse (hf : m.UniquenessWithin f) {r : ReferenceMode} {identifier : Role}
    (name : String) (hr : m.Identifies f r) (hi : r.identifierRole = some identifier) :
    ∃ u, m.KeyedBy f ⟨name, r.identifierUniqueness, [identifier.id], [r.entityRole.id]⟩ u := by
  obtain ⟨u, hmem, hid, hu, -, -⟩ := hf.constraint hr.identifier_mem
  obtain ⟨hi, hlone⟩ := hr.identifierRole_spec hi
  have hroles := hr.roleIds_identifier hu
  have he : r.entityRole.id ∈ f.roleIds := List.mem_map_of_mem hr.entityRole_mem
  have hout : r.entityRole.id ∉ u.roleIds := by
    rw [hroles, List.mem_singleton]
    exact hr.entityRole_ne
  have hi : identifier.id ∈ f.roleIds := List.mem_map_of_mem hi
  refine ⟨u, hmem, hid, by simp [Predicate.roleIds, he, hi], Or.inl ⟨?_, Or.inr ⟨_, he, hout⟩⟩⟩
  simp [hroles, hlone, Predicate.roleIds]

theorem keyedBy_forward (hf : m.UniquenessWithin f) {r : ReferenceMode} {identifier : Role}
    (name : String) (hr : m.Identifies f r) (hi : r.identifierRole = some identifier) :
    ∃ u, m.KeyedBy f ⟨name, r.entityUniqueness, [r.entityRole.id], [identifier.id]⟩ u := by
  obtain ⟨w, hmem, hid, hw, hn, hs⟩ := hf.constraint hr.entityUniqueness_mem
  obtain ⟨u, humem, huid, hu, -, -⟩ := hf.constraint hr.identifier_mem
  obtain ⟨hi, hlone⟩ := hr.identifierRole_spec hi
  have huroles := hr.roleIds_identifier hu
  have he : r.entityRole.id ∈ f.roleIds := List.mem_map_of_mem hr.entityRole_mem
  have hi : identifier.id ∈ f.roleIds := List.mem_map_of_mem hi
  have hne : r.entityRole.id ≠ identifier.id := hlone ▸ hr.entityRole_ne
  have hrole {role : Id} (h : role ∈ f.roleIds) : role = r.entityRole.id ∨ role = identifier.id :=
    eq_or_eq_of_length_two (by simp [FactType.roleIds, hr.twoRoles]) he hi hne h
  refine ⟨w, hmem, hid, by simp [Predicate.roleIds, he, hi], ?_⟩
  by_cases hiw : identifier.id ∈ w.roleIds
  · right
    -- a constraint over the identifier's role alone would not be the one over the entity's role
    have hew : r.entityRole.id ∈ w.roleIds := by
      rcases hr.roleIds_entity hw with h | ⟨-, h⟩
      · simp [h]
      · exact mem_of_length_ne_one hn (fun role hrw => hrole (hs hrw)) h hiw
    refine ⟨List.ne_nil_of_mem hr.entityRole_mem, ?_, [r.entityRole.id], identifier.id, rfl,
      by simpa using hne.symm, ?_⟩
    · intro role h
      rcases hrole h with rfl | rfl
      · exact hew
      · exact hiw
    · intro v hv
      obtain ⟨id, hid, hv⟩ := mem_uniquenessConstraintsOf.mp hv
      rcases eq_or_eq_of_length_two hr.twoConstraints hr.entityUniqueness_mem hr.identifier_mem
        hr.entityUniqueness_ne hid with rfl | rfl
      · obtain rfl := Option.some.inj (hw.symm.trans hv)
        exact hiw
      · obtain rfl := Option.some.inj (hu.symm.trans hv)
        simp [huroles, hlone]
  · left
    refine ⟨fun role hrw => ?_, Or.inr ⟨_, hi, hiw⟩⟩
    rcases hrole (hs hrw) with rfl | rfl
    · simp [Predicate.roleIds]
    · exact absurd hrw hiw

/-- Every relation of a fact type is keyed by one of its uniqueness constraints. -/
theorem Gives.keyedBy {p : Predicate} (h : m.Gives f p) (hf : m.UniquenessWithin f) :
    ∃ u, m.KeyedBy f p u := by
  cases h with
  | forward name hr hi => exact keyedBy_forward hf name hr hi
  | inverse name hr hi => exact keyedBy_inverse hf name hr hi
  | named hr hu => exact ⟨_, keyedBy_named hf hr hu⟩
  | whole name hu => exact ⟨_, keyedBy_whole hf name hu⟩

/-- **When a function clause is sound.** The clause that a relation is a function is true of every
population that obeys the uniqueness constraints exactly if the constraint that its key comes from
leaves out a role of the fact type, or there is no role at all. -/
theorem function_holds_iff {clauses : List Clause} {p : Predicate} {name : String}
    {vars : List String} (hf : m.UniquenessWithin f)
    (h : (m.factTypeClauses f).result = .ok clauses)
    (hc : .constraint name vars (.function (.predicate p)) ∈ clauses) :
    ∃ u ∈ m.uniquenessConstraintsOf f, u.id = p.uniqueness ∧ p.roleIds ⊆ f.roleIds ∧
      ((∀ (V : Type) (types : String → Set V) (P : Population V),
          (∀ v ∈ m.uniquenessConstraintsOf f, P.Obeys f v) →
          (Clause.constraint name vars (.function (.predicate p))).Holds ⟨types, P.rows⟩) ↔
        f.roles = [] ∨ ∃ role ∈ f.roleIds, role ∉ u.roleIds) := by
  obtain ⟨relations, whole, hw, rfl⟩ := factTypeClauses_eq_ok_iff.mp h
  have hp := mem_relations_of_function hw hc
  obtain ⟨u, hu⟩ := (gives_of_mem hw hp).keyedBy hf
  refine ⟨u, hu.mem, hu.id_eq, hu.columns, ?_⟩
  rcases hu.key with ⟨hkey, hout⟩ | ⟨hroles, hall, init, last, hl, hnotin, hlast⟩
  · refine iff_of_true (fun V types P hP ρ => ?_) hout
    exact Population.function_holds (hP u hu.mem) hkey hu.columns
  · refine iff_of_false (fun hall' => ?_) ?_
    · obtain ⟨P, hP, hnot⟩ := Population.exists_obeys_not_function hl hnotin hlast
        (fun _ => ∅) (fun _ => false)
      exact hnot (hall' Bool _ P hP _)
    · rintro (h | ⟨role, hr, hout⟩)
      · exact hroles h
      · exact hout (hall role hr)

end Model

/-! ## Courses and grades -/

namespace Courses

/-- Students take courses, any student any course. -/
def takes : FactType where
  id := some "takes"
  name := "StudentTakesCourse"
  roles := [{ id := some "taker", factTypeId := some "takes", playerId := some "student" },
    { id := some "taken", factTypeId := some "takes", playerId := some "course" }]
  uniquenessIds := [some "each taking"]

/-- A student has one grade in a course, and a grade in one course only. -/
def graded : FactType where
  id := some "graded"
  name := "StudentInCourseHasGrade"
  roles := [{ id := some "who", factTypeId := some "graded", playerId := some "student" },
    { id := some "where", factTypeId := some "graded", playerId := some "course" },
    { id := some "what", factTypeId := some "graded", playerId := some "grade", name := "grade" }]
  uniquenessIds := [some "one course", some "one grade"]

def model : Model where
  objects := [{ id := some "student", name := "Student", kind := .entity },
    { id := some "course", name := "Course", kind := .entity },
    { id := some "grade", name := "Grade", kind := .value }]
  factTypes := [takes, graded]
  uniquenessConstraints := [{ id := some "each taking", roleIds := [some "taken", some "taker"] },
    { id := some "one course", roleIds := [some "who", some "what"] },
    { id := some "one grade", roleIds := [some "where", some "who"] }]

/-- The relation of students and courses. -/
def takesRelation : Predicate :=
  ⟨"student_takes_course", some "each taking", [some "taken", some "taker"], []⟩

/-- The relation from courses and students to grades. -/
def gradeRelation : Predicate :=
  ⟨"grade", some "one grade", [some "where", some "who"], [some "what"]⟩

theorem within_takes : model.UniquenessWithin takes := by
  intro id hid
  obtain rfl := List.mem_singleton.mp hid
  exact ⟨_, rfl, by decide, by decide⟩

theorem within_graded : model.UniquenessWithin graded := by
  intro id hid
  rcases List.mem_cons.mp hid with rfl | hid
  · exact ⟨_, rfl, by decide, by decide⟩
  · obtain rfl := List.mem_singleton.mp hid
    exact ⟨_, rfl, by decide, by decide⟩

/-- The clauses of `graded`. -/
def gradedClauses : List Clause :=
  [.unsupported ("TBD: Many to one constraint for non-generating uniqueness constraint " ++
      "of relation grade"),
    .constraint "grade_many_one" [] (.function (.predicate gradeRelation)),
    model.typeClause gradeRelation]

theorem factTypeClauses_graded : (model.factTypeClauses graded).result = .ok gradedClauses := by
  rfl

theorem function_mem_gradedClauses :
    .constraint "grade_many_one" [] (.function (.predicate gradeRelation)) ∈ gradedClauses :=
  .tail _ (.head _)

/-- The grade is a function of course and student in every population, for its key leaves out the
role of the grade. -/
theorem function_holds_iff_graded :
    model.UniquenessWithin graded ∧
      (model.factTypeClauses graded).result = .ok gradedClauses ∧
      .constraint "grade_many_one" [] (.function (.predicate gradeRelation)) ∈ gradedClauses ∧
      ∃ u ∈ model.uniquenessConstraintsOf graded, u.id = some "one grade" ∧
        gradeRelation.roleIds ⊆ graded.roleIds ∧
        ((∀ (V : Type) (types : String → Set V) (P : Population V),
            (∀ v ∈ model.uniquenessConstraintsOf graded, P.Obeys graded v) →
            (Clause.constraint "grade_many_one" [] (.function (.predicate gradeRelation))).Holds
              ⟨types, P.rows⟩) ↔
          graded.roles = [] ∨ ∃ role ∈ graded.roleIds, role ∉ u.roleIds) :=
  ⟨within_graded, factTypeClauses_graded, function_mem_gradedClauses,
    Model.function_holds_iff within_graded factTypeClauses_graded function_mem_gradedClauses⟩

/-- Taking is said to be a function, though its constraint spans both roles: a population obeys the
constraint in which a course is taken by two students. -/
theorem function_fails_on_spanning :
    takes.roleIds.Nodup ∧ model.UniquenessWithin takes ∧
      ∃ clauses, (model.factTypeClauses takes).result = .ok clauses ∧
        .constraint "student_takes_course_many_one" [] (.function (.predicate takesRelation)) ∈
          clauses ∧
        ∃ P : Population Bool, (∀ u ∈ model.uniquenessConstraintsOf takes, P.Obeys takes u) ∧
          ¬ (Clause.constraint "student_takes_course_many_one" []
            (.function (.predicate takesRelation))).Holds ⟨fun _ => ∅, P.rows⟩ := by
  have hc : (model.factTypeClauses takes).result =
      .ok [.constraint "student_takes_course_many_one" [] (.function (.predicate takesRelation)),
        model.typeClause takesRelation] := rfl
  refine ⟨by decide, within_takes, _, hc, .head _, ?_⟩
  have hcolumns : takesRelation.roleIds = [some "taken"] ++ [some "taker"] := rfl
  have hspans : ∀ u ∈ model.uniquenessConstraintsOf takes, some "taker" ∈ u.roleIds := by decide
  obtain ⟨P, hP, hnot⟩ := Population.exists_obeys_not_function (f := takes) hcolumns (by decide)
    hspans (fun _ => ∅) (fun _ => false)
  exact ⟨P, hP, fun h => hnot (h _)⟩

end Courses

end RoleSchema
