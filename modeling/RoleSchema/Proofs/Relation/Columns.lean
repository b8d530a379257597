import Mathlib.Data.List.Nodup
import Mathlib.Logic.Function.Basic
import RoleSchema.Proofs.Rel.Meaning
import RoleSchema.Relation.Constraint

/-!
# Columns and types

The clauses about a relation compare its columns with types. In a relation with a column for each of
its roles, the clause of the types says that every column is contained in the type of its role, and
the clause of a mandatory constraint that the type of a role is contained in its column. The column
is the first whose role the constraint spans; where it spans none, there is no clause.

* `Rel.Interpretation.column`: the values in a column.
* `Rel.Clause.HoldsFor`: the truth of a clause in which its head variables stand for all values.
* `Model.holdsFor_typeClause_iff`, `Model.holdsFor_mandatoryClause_iff`: the two kinds of clauses.
* `Model.column_clauses_denote`: both, with the choice of the column.
-/

namespace RoleSchema

/-! ## Assignments -/

/-- Different keys can be given any values, and all other keys the values that they have. -/
theorem exists_map_eq {α β : Type} [DecidableEq α] (f : α → β) {xs : List α} (hxs : xs.Nodup)
    {ys : List β} (h : ys.length = xs.length) :
    ∃ g : α → β, (∀ x, x ∉ xs → g x = f x) ∧ xs.map g = ys := by
  induction xs generalizing ys with
  | nil =>
    obtain rfl := List.eq_nil_of_length_eq_zero h
    exact ⟨f, fun _ _ => rfl, rfl⟩
  | cons x xs ih =>
    obtain ⟨y, ys, rfl⟩ := List.exists_cons_of_length_eq_add_one h
    obtain ⟨hx, hxs⟩ := List.nodup_cons.mp hxs
    obtain ⟨g, hg, hmap⟩ := ih hxs (by simpa using h)
    refine ⟨Function.update g x y, fun z hz => ?_, ?_⟩
    · rw [List.mem_cons, not_or] at hz
      rw [Function.update_of_ne hz.1, hg z hz.2]
    · have hrest : xs.map (Function.update g x y) = xs.map g := by
        refine List.map_congr_left fun z hz => Function.update_of_ne ?_ _ _
        rintro rfl
        exact hx hz
      rw [List.map_cons, Function.update_self, hrest, hmap]

namespace Rel

variable {V : Type} {I : Interpretation V} {ρ : String → V}

/-- The values in a column of a relation. -/
def Interpretation.column (I : Interpretation V) (p : Predicate) (i : Nat) : Set V :=
  {x | ∃ row ∈ I.rows p, row[i]? = some x}

/-- The rows of a relation have a value for each of its roles. -/
def Interpretation.Fits (I : Interpretation V) (p : Predicate) : Prop :=
  ∀ row ∈ I.rows p, row.length = p.roleIds.length

/-- The truth of a clause whose head variables stand for all values, and any other variables for
those of `ρ`. -/
def Clause.HoldsFor (I : Interpretation V) (ρ : String → V) : Clause → Prop
  | .constraint _ vars body => ∀ ρ', (∀ x, x ∉ vars → ρ' x = ρ x) → body.Holds I ρ'
  | .unsupported _ => True
  | .misplaced _ => False

/-- A clause holds if it does whatever its other variables stand for. -/
theorem Clause.holds_iff_forall_holdsFor {c : Clause} [Nonempty V] :
    c.Holds I ↔ ∀ ρ, c.HoldsFor I ρ := by
  cases c with
  | constraint name vars body => exact ⟨fun h _ ρ' _ => h ρ', fun h ρ => h ρ ρ fun _ _ => rfl⟩
  | unsupported message => exact ⟨fun h _ => h, fun _ => trivial⟩
  | misplaced sort => exact ⟨False.elim, fun h => h fun _ => Classical.arbitrary V⟩

/-- Variables stand for the row that they match. -/
theorem forall₂_fits_vars {vars : List String} (hvars : "_" ∉ vars) {row : List V} :
    List.Forall₂ (Fits ρ) vars row ↔ vars.map ρ = row := by
  induction vars generalizing row with
  | nil => simp [eq_comm]
  | cons v vars ih =>
    rw [List.mem_cons, not_or] at hvars
    have hv : v ≠ "_" := fun h => hvars.1 h.symm
    cases row with
    | nil => simp
    | cons x row =>
      rw [List.forall₂_cons, ih hvars.2, List.map_cons, List.cons.injEq, Fits, or_iff_right hv]

/-- An atom of variables says that their values are a row. -/
theorem holds_vars_atom {p : Predicate} {vars : List String} (hvars : "_" ∉ vars) :
    (Formula.atom (.predicate p) vars).Holds I ρ ↔ vars.map ρ ∈ I.rows p := by
  simp only [Formula.Holds, Interpretation.relation, forall₂_fits_vars hvars]
  constructor
  · rintro ⟨row, hrow, rfl⟩
    exact hrow
  · intro h
    exact ⟨_, h, rfl⟩

/-- An atom that binds the column of a role says that its value is in that column. -/
theorem holds_bindRole_iff {p : Predicate} (hcolumns : p.roleIds.Nodup) (hrows : I.Fits p) {i : Nat}
    (hi : i < p.roleIds.length) {var : String} (hv : var ≠ "_") :
    (p.bindRole p.roleIds[i] var).Holds I ρ ↔ ρ var ∈ I.column p i := by
  have hmem : p.roleIds[i] ∈ p.roleIds := List.getElem_mem hi
  simp only [Predicate.bindRole, Formula.Holds, Interpretation.relation, Interpretation.column,
    Set.mem_ofPred_eq]
  refine exists_congr fun row => and_congr_right fun hrow => ?_
  -- the row is read off at the roles of the columns
  obtain ⟨t, -, rfl⟩ := exists_map_eq (fun _ => ρ var) hcolumns (hrows row hrow)
  rw [forall₂_fits_bind hv, List.getElem?_map, List.getElem?_eq_getElem hi, Option.map_some,
    Option.some_inj]
  exact ⟨fun h => (h hmem).symm, fun h _ => h.symm⟩

theorem allHold_iff {fs : List Formula} : Formula.AllHold I ρ fs ↔ ∀ f ∈ fs, f.Holds I ρ := by
  induction fs with
  | nil => simp [Formula.AllHold]
  | cons f fs ih => rw [Formula.AllHold, ih, List.forall_mem_cons]

/-! ## Variables -/

theorem length_freshVariables (n : Nat) : (freshVariables n).length = n := by
  simp [freshVariables]

theorem nodup_freshVariables (n : Nat) : (freshVariables n).Nodup := by
  refine List.Nodup.map (fun i j h => ?_) List.nodup_range
  have hrepr : Nat.repr (i + 1) = Nat.repr (j + 1) := (String.append_right_inj _).mp h
  -- a number is read back from its digits
  have hdigits := congrArg (fun s : String => Nat.ofDigitChars 10 s.toList 0) hrepr
  simp only [Nat.toList_repr, Nat.ofDigitChars_toDigits (by decide : 1 < 10) (by decide)] at hdigits
  omega

theorem blank_notMem_freshVariables (n : Nat) : "_" ∉ freshVariables n := by
  intro h
  obtain ⟨i, -, hi⟩ := List.mem_map.mp h
  have hfirst := congrArg (fun s : String => s.toList.head?) hi
  simp at hfirst

end Rel

open RoleSchema.Rel (Predicate Formula Clause Interpretation freshVariables)

namespace Model

variable {V : Type} {I : Interpretation V} {ρ : String → V} {m : Model} {p : Predicate}
  {c : MandatoryConstraint}

/-! ## Types -/

/-- Each variable stands for an instance of the type of its column. -/
theorem holds_types_iff {vars : List String} (hvars : "_" ∉ vars) :
    (Formula.conj ((p.roleIds.zip vars).map fun c =>
        .atom (.type (m.roleType c.1)) [c.2])).Holds I ρ ↔
      ∀ (i : Nat) (role : Id) (x : V), p.roleIds[i]? = some role → (vars.map ρ)[i]? = some x →
        x ∈ I.types (m.roleType role) := by
  have hne {v : String} (hv : v ∈ vars) : v ≠ "_" := by
    rintro rfl
    exact hvars hv
  rw [Formula.Holds, Rel.allHold_iff, List.forall_mem_map]
  constructor
  · intro h i role x hrole hx
    rw [List.getElem?_map, Option.map_eq_some_iff] at hx
    obtain ⟨v, hv, rfl⟩ := hx
    have hmem : (role, v) ∈ p.roleIds.zip vars :=
      List.mem_iff_getElem?.mpr ⟨i, List.getElem?_zip_eq_some.mpr ⟨hrole, hv⟩⟩
    have hatom := h (role, v) hmem
    exact (Rel.holds_type_atom (hne (List.mem_of_getElem? hv))).mp hatom
  · rintro h ⟨role, v⟩ hmem
    obtain ⟨i, hi⟩ := List.mem_iff_getElem?.mp hmem
    obtain ⟨hrole, hv⟩ := List.getElem?_zip_eq_some.mp hi
    refine (Rel.holds_type_atom (hne (List.mem_of_getElem? hv))).mpr (h i role (ρ v) hrole ?_)
    rw [List.getElem?_map, hv, Option.map_some]

/-- The clause of the types says that each column is contained in the type of its role. -/
theorem holdsFor_typeClause_iff (hrows : I.Fits p) :
    (m.typeClause p).HoldsFor I ρ ↔
      ∀ (i : Nat) (role : Id), p.roleIds[i]? = some role →
        I.column p i ⊆ I.types (m.roleType role) := by
  have hvars := Rel.blank_notMem_freshVariables p.roleIds.length
  have hlength := Rel.length_freshVariables p.roleIds.length
  simp only [typeClause, Clause.HoldsFor, Rel.holds_implies, Rel.holds_vars_atom hvars,
    holds_types_iff hvars]
  constructor
  · rintro h i role hrole x ⟨row, hrow, hx⟩
    obtain ⟨ρ', hρ', rfl⟩ := exists_map_eq ρ (Rel.nodup_freshVariables p.roleIds.length)
      ((hrows row hrow).trans hlength.symm)
    exact h ρ' hρ' hrow i role x hrole hx
  · intro h ρ' _ hrow i role x hrole hx
    exact h i role hrole ⟨_, hrow, hx⟩

/-! ## Mandatory constraints -/

/-- There is no clause exactly if the constraint spans the role of no column. -/
theorem mandatoryClause_eq_none_iff :
    m.mandatoryClause c p = none ↔ ∀ role ∈ p.roleIds, role ∉ c.roleIds := by
  simp [mandatoryClause, Predicate.firstOccurrence, List.find?_eq_none]

/-- The clause of a mandatory constraint says that the type of the first role that the constraint
spans is contained in the column of the role. -/
theorem holdsFor_mandatoryClause_iff (hcolumns : p.roleIds.Nodup) (hrows : I.Fits p)
    {clause : Clause} (h : m.mandatoryClause c p = some clause) :
    ∃ i role, p.roleIds[i]? = some role ∧ role ∈ c.roleIds ∧
      (∀ j < i, ∀ other, p.roleIds[j]? = some other → other ∉ c.roleIds) ∧
      (clause.HoldsFor I ρ ↔ I.types (m.roleType role) ⊆ I.column p i) := by
  obtain ⟨role, hrole, rfl⟩ := Option.map_eq_some_iff.mp h
  obtain ⟨hspans, i, hi, rfl, hbefore⟩ := List.find?_eq_some_iff_getElem.mp hrole
  have hv : "v" ≠ "_" := by decide
  refine ⟨i, _, List.getElem?_eq_getElem hi, by simpa using hspans, fun j hj other hother => ?_, ?_⟩
  · obtain ⟨hlt, rfl⟩ := List.getElem?_eq_some_iff.mp hother
    simpa using hbefore j hj
  · simp only [Clause.HoldsFor, Rel.holds_implies, Rel.holds_type_atom hv,
      Rel.holds_bindRole_iff hcolumns hrows hi hv]
    constructor
    · intro hall x hx
      have hothers : ∀ y, y ∉ ["v"] → Function.update ρ "v" x y = ρ y := fun y hy =>
        Function.update_of_ne (by simpa using hy) _ _
      have hx' := hall _ hothers
      rw [Function.update_self] at hx'
      exact hx' hx
    · intro hsub ρ' _ hx
      exact hsub hx

/-- **What the clauses about columns say.** For a relation with a column for each of its roles and
rows with a value for each, whatever the names of types stand for:

* the clause of its types is true, for all values of its head variables, exactly if each column is
  contained in the type of its role;
* a mandatory constraint has no clause exactly if it spans the role of no column, and otherwise the
  clause is true exactly if the type of the first role that it spans is contained in the column of
  the role. -/
theorem column_clauses_denote (m : Model) (p : Predicate) (hcolumns : p.roleIds.Nodup)
    (I : Interpretation V) (hrows : I.Fits p) (ρ : String → V) :
    ((m.typeClause p).HoldsFor I ρ ↔
      ∀ (i : Nat) (role : Id), (p.key ++ p.value)[i]? = some role →
        I.column p i ⊆ I.types (m.roleType role)) ∧
    ∀ c : MandatoryConstraint,
      (m.mandatoryClause c p = none ↔ ∀ role ∈ p.key ++ p.value, role ∉ c.roleIds) ∧
      ∀ clause, m.mandatoryClause c p = some clause →
        ∃ i role, (p.key ++ p.value)[i]? = some role ∧ role ∈ c.roleIds ∧
          (∀ j < i, ∀ other, (p.key ++ p.value)[j]? = some other → other ∉ c.roleIds) ∧
          (clause.HoldsFor I ρ ↔ I.types (m.roleType role) ⊆ I.column p i) :=
  ⟨holdsFor_typeClause_iff hrows, fun _ =>
    ⟨mandatoryClause_eq_none_iff, fun _ => holdsFor_mandatoryClause_iff hcolumns hrows⟩⟩

end Model

/-! ## Gardens -/

namespace Gardens

def model : Model where
  objects := [{ id := some "person", name := "Person", kind := .entity },
    { id := some "bed", name := "Bed", kind := .entity },
    { id := some "hour", name := "Hour", kind := .value, dataType := some "count" }]
  factTypes := [{
    id := some "watering"
    name := "PersonWatersBedAtHour"
    roles := [{ id := some "who", factTypeId := some "watering", playerId := some "person" },
      { id := some "where", factTypeId := some "watering", playerId := some "bed" },
      { id := some "when", factTypeId := some "watering", playerId := some "hour" }] }]
  dataTypes := [{ id := some "count", kind := "UnsignedIntegerNumericDataType" }]

/-- Who waters a bed at an hour. -/
def waters : Predicate := ⟨"waters", some "one person", [some "where", some "when"], [some "who"]⟩

/-- Each person and each hour occurs, or so it is written. -/
def busy : MandatoryConstraint := { id := some "busy", roleIds := [some "who", some "when"] }

/-- The instances of the types. -/
def instances : List (String × String) :=
  [("Person", "Ann"), ("Person", "Ben"), ("Bed", "north"), ("Int", "6"), ("Int", "7")]

/-- Ann waters the one bed at both hours, and Ben none. -/
def week : Interpretation String where
  types name := {x | (name, x) ∈ instances}
  rows _ := {row | row = ["north", "6", "Ann"] ∨ row = ["north", "7", "Ann"]}

theorem fits_week : week.Fits waters := by
  rintro row (rfl | rfl) <;> rfl

theorem mem_types_iff {name x : String} : x ∈ week.types name ↔ (name, x) ∈ instances :=
  Iff.rfl

/-- The columns hold instances of their types. The mandatory constraint names the role of people
first, but its clause is about the hours, whose column comes first, and is true, although Ben waters
nothing. -/
theorem column_clauses_denote_week :
    waters.roleIds.Nodup ∧ week.Fits waters ∧ (model.typeClause waters).Holds week ∧
      ∃ clause, model.mandatoryClause busy waters = some clause ∧ clause.Holds week ∧
        week.types (model.roleType (some "when")) ⊆ week.column waters 1 ∧
        ¬ week.types (model.roleType (some "who")) ⊆ week.column waters 2 := by
  have hcolumns : waters.roleIds.Nodup := by decide
  have hdenote (ρ : String → String) :=
    Model.column_clauses_denote model waters hcolumns week fits_week ρ
  have htypes : ∀ (i : Nat) (role : Id), (waters.key ++ waters.value)[i]? = some role →
      week.column waters i ⊆ week.types (model.roleType role) := by
    rintro i role hrole x ⟨row, rfl | rfl, hx⟩ <;> rw [mem_types_iff]
    all_goals
      match i with
      | 0 | 1 | 2 =>
        obtain rfl := Option.some.inj hrole
        obtain rfl := Option.some.inj hx
        decide
  have hhours : week.types (model.roleType (some "when")) ⊆ week.column waters 1 := by
    intro x hx
    have hhour : x = "6" ∨ x = "7" := by
      simpa [mem_types_iff, instances, show model.roleType (some "when") = "Int" from rfl] using hx
    obtain rfl | rfl := hhour
    · exact ⟨_, .inl rfl, rfl⟩
    · exact ⟨_, .inr rfl, rfl⟩
  have hpeople : ¬ week.types (model.roleType (some "who")) ⊆ week.column waters 2 := by
    intro h
    obtain ⟨row, rfl | rfl, hx⟩ := h (mem_types_iff.mpr (by decide : ("Person", "Ben") ∈ instances))
    all_goals exact absurd hx (by decide)
  refine ⟨hcolumns, fits_week, ?_, _, rfl, ?_, hhours, hpeople⟩
  · exact Clause.holds_iff_forall_holdsFor.mpr fun ρ => (hdenote ρ).1.mpr htypes
  · refine Clause.holds_iff_forall_holdsFor.mpr fun ρ => ?_
    obtain ⟨i, role, hrole, hspans, hbefore, hiff⟩ := ((hdenote ρ).2 busy).2 _ rfl
    match i with
    | 0 =>
      obtain rfl := Option.some.inj hrole
      exact absurd hspans (by decide)
    | 1 =>
      obtain rfl := Option.some.inj hrole
      exact hiff.mpr hhours
    | _ + 2 =>
      have hwhen : some "when" ∉ busy.roleIds := hbefore 1 (by omega) _ rfl
      exact absurd (by decide) hwhen

end Gardens

end RoleSchema
