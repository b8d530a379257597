import RoleSchema.Proofs.Hierarchy.Reach
import RoleSchema.Proofs.Relation.Arity
import RoleSchema.Proofs.Relation.Columns

/-!
# The scope of variables

The clauses about columns and those of the hierarchy are implications that bind their variables:
each variable of the head stands once in front of `implies` and once behind it, and any other
argument is left open. Only a mandatory constraint leaves columns open, and only behind `implies`:
the first column that it covers is bound, wherever it stands, and no other. The truth of such a
clause is settled by the variables of its head, so that it does not matter what any other variable
stands for.

* `Rel.Clause.WellScoped`: how a clause binds its variables.
* `Rel.Clause.WellScoped.holdsFor_iff`: the truth of a well-scoped clause.
* `Model.clauses_wellScoped`: the kinds of clauses that are well scoped.
-/

namespace RoleSchema

namespace Rel

/-! ## Arguments -/

/-- The arguments of a formula from left to right, each as often as it stands there. -/
def Formula.arguments (f : Formula) : List String := f.atoms.flatMap Prod.snd

@[simp] theorem arguments_atom (relation : Relation) (args : List String) :
    (Formula.atom relation args).arguments = args := by
  simp [Formula.arguments, Formula.atoms]

@[simp] theorem arguments_implies (antecedent consequent : Formula) :
    (Formula.implies antecedent consequent).arguments =
      antecedent.arguments ++ consequent.arguments := by
  simp [Formula.arguments, Formula.atoms]

theorem arguments_conj (conjuncts : List Formula) :
    (Formula.conj conjuncts).arguments = conjuncts.flatMap Formula.arguments := by
  rw [Formula.arguments, Formula.atoms, atomsOfAll_eq_flatMap, List.flatMap_assoc]
  rfl

/-- A conjunction of atoms of types has one argument for each of them. -/
theorem arguments_types {α : Type} (xs : List α) (type var : α → String) :
    (Formula.conj (xs.map fun x => .atom (.type (type x)) [var x])).arguments = xs.map var := by
  rw [arguments_conj, List.flatMap_map, List.map_eq_flatMap]
  simp only [arguments_atom]

/-- The arguments of a clause. -/
def Clause.arguments : Clause → List String
  | .constraint _ _ body => body.arguments
  | .unsupported _ | .misplaced _ => []

/-- An argument of a clause is left open. -/
def Clause.HasBlank (c : Clause) : Prop := "_" ∈ c.arguments

/-! ## Well-scoped clauses -/

/-- Variables are bound in an implication. -/
structure Binds (vars : List String) (antecedent consequent : Formula) : Prop where
  distinct : vars.Nodup
  /-- Each stands once in front of `implies` and once behind it. -/
  once_left : ∀ v ∈ vars, antecedent.arguments.count v = 1
  once_right : ∀ v ∈ vars, consequent.arguments.count v = 1
  /-- No other argument stands in front, and none is open there. -/
  scope_left : ∀ arg ∈ antecedent.arguments, arg ∈ vars ∧ arg ≠ "_"
  /-- Behind it, any other argument is open. -/
  scope_right : ∀ arg ∈ consequent.arguments, arg ∈ vars ∨ arg = "_"

/-- A clause is an implication in which its head variables are bound. -/
def Clause.WellScoped : Clause → Prop
  | .constraint _ vars (.implies antecedent consequent) => Binds vars antecedent consequent
  | _ => False

variable {name : String} {vars : List String} {antecedent consequent : Formula}

/-- Different variables are bound, and nothing is left open, if they are all that stands on either
side. -/
theorem wellScoped_of_arguments (hvars : vars.Nodup) (hblank : "_" ∉ vars)
    (hleft : antecedent.arguments = vars) (hright : consequent.arguments = vars) :
    (Clause.constraint name vars (.implies antecedent consequent)).WellScoped ∧
      ¬ (Clause.constraint name vars (.implies antecedent consequent)).HasBlank := by
  have hbinds : Binds vars antecedent consequent :=
    { distinct := hvars
      once_left := by
        rw [hleft]
        exact fun v hv => List.count_eq_one_of_mem hvars hv
      once_right := by
        rw [hright]
        exact fun v hv => List.count_eq_one_of_mem hvars hv
      scope_left := by
        rw [hleft]
        exact fun arg harg => ⟨harg, fun h => hblank (h ▸ harg)⟩
      scope_right := by
        rw [hright]
        exact fun arg harg => Or.inl harg }
  refine ⟨hbinds, ?_⟩
  rw [Clause.HasBlank, Clause.arguments, arguments_implies, hleft, hright, List.mem_append, or_self]
  exact hblank

/-! ## The truth of well-scoped clauses -/

variable {V : Type} {I : Interpretation V} {ρ σ : String → V}

/-- Which rows match depends on the values of the arguments that are not open. -/
theorem forall₂_fits_congr {args : List String} {row : List V}
    (h : ∀ arg ∈ args, arg ≠ "_" → ρ arg = σ arg) :
    List.Forall₂ (Fits ρ) args row ↔ List.Forall₂ (Fits σ) args row := by
  induction args generalizing row with
  | nil => simp only [List.forall₂_nil_left_iff]
  | cons arg args ih =>
    rw [List.forall_mem_cons] at h
    have hfits (x : V) : Fits ρ arg x ↔ Fits σ arg x := by
      by_cases hblank : arg = "_"
      · exact iff_of_true (Or.inl hblank) (Or.inl hblank)
      · simp only [Fits, h.1 hblank]
    cases row with
    | nil => simp
    | cons x row => rw [List.forall₂_cons, List.forall₂_cons, hfits x, ih h.2]

mutual

/-- The truth of a formula depends on the values of its arguments that are not open. -/
theorem Formula.holds_congr (f : Formula)
    (h : ∀ arg ∈ f.arguments, arg ≠ "_" → ρ arg = σ arg) : f.Holds I ρ ↔ f.Holds I σ := by
  match f with
  | .atom relation args =>
    rw [arguments_atom] at h
    simp only [Formula.Holds, forall₂_fits_congr h]
  | .conj conjuncts =>
    rw [arguments_conj] at h
    rw [Formula.Holds, Formula.Holds]
    exact Formula.allHold_congr conjuncts fun f hf arg harg =>
      h arg (List.mem_flatMap_of_mem hf harg)
  | .implies antecedent consequent =>
    rw [arguments_implies, List.forall_mem_append] at h
    rw [holds_implies, holds_implies]
    exact imp_congr (Formula.holds_congr antecedent h.1) (Formula.holds_congr consequent h.2)
  | .function relation => simp only [Formula.Holds]
  | .misplaced sort => simp only [Formula.Holds]

theorem Formula.allHold_congr (fs : List Formula)
    (h : ∀ f ∈ fs, ∀ arg ∈ f.arguments, arg ≠ "_" → ρ arg = σ arg) :
    Formula.AllHold I ρ fs ↔ Formula.AllHold I σ fs := by
  match fs with
  | [] => simp only [Formula.AllHold]
  | f :: fs =>
    rw [List.forall_mem_cons] at h
    rw [Formula.AllHold, Formula.AllHold]
    exact and_congr (Formula.holds_congr f h.1) (Formula.allHold_congr fs h.2)

end

/-- **The truth of a well-scoped clause.** A well-scoped clause that is true for all values of its
head variables is true whatever the other variables stand for. -/
theorem Clause.WellScoped.holdsFor_iff {c : Clause} (h : c.WellScoped) :
    c.HoldsFor I ρ ↔ c.Holds I := by
  cases c with
  | constraint name vars body =>
    cases body with
    | implies antecedent consequent =>
      have hbinds : Binds vars antecedent consequent := h
      refine ⟨fun hfor σ => ?_, fun hall ρ' _ => hall ρ'⟩
      -- `σ` is followed on the head variables, which are all that the body reads
      let ρ' : String → V := fun x => if x ∈ vars then σ x else ρ x
      have hheld := hfor ρ' fun x hx => if_neg hx
      refine (Formula.holds_congr _ fun arg harg hblank => ?_).mp hheld
      rw [arguments_implies, List.mem_append] at harg
      have hmem : arg ∈ vars := by
        rcases harg with hleft | hright
        · exact (hbinds.scope_left arg hleft).1
        · exact (hbinds.scope_right arg hright).resolve_right hblank
      exact if_pos hmem
    | _ => exact h.elim
  | unsupported message => exact h.elim
  | misplaced sort => exact h.elim

/-! ## Columns that are bound -/

variable {p : Predicate} {role : Id} {var : String}

/-- An atom that binds the column of a role has the variable once. -/
theorem count_arguments_bindRole (hcolumns : p.roleIds.Nodup) (hrole : role ∈ p.roleIds)
    (hvar : var ≠ "_") : (p.bindRole role var).arguments.count var = 1 := by
  have hbound (r : Id) : ((if r == role then var else "_") == var) = (r == role) := by
    cases h : r == role with
    | true => simp
    | false => simpa using hvar.symm
  calc (p.bindRole role var).arguments.count var
      = (p.roleIds.map fun r => if r == role then var else "_").count var := by
        rw [Predicate.bindRole, arguments_atom]
    _ = p.roleIds.count role := by
        simp only [List.count_eq_countP, List.countP_map, Function.comp_def, hbound]
    _ = 1 := List.count_eq_one_of_mem hcolumns hrole

theorem mem_arguments_bindRole {arg : String} (h : arg ∈ (p.bindRole role var).arguments) :
    arg = var ∨ arg = "_" := by
  rw [Predicate.bindRole, arguments_atom, List.mem_map] at h
  obtain ⟨r, -, rfl⟩ := h
  exact ite_eq_or_eq _ _ _

/-- An implication from a type to the column of a role binds its variable. -/
theorem binds_bindRole (hcolumns : p.roleIds.Nodup) (hrole : role ∈ p.roleIds) (hvar : var ≠ "_")
    (type : String) : Binds [var] (.atom (.type type) [var]) (p.bindRole role var) where
  distinct := List.nodup_singleton var
  once_left := by simp
  once_right := by
    intro v hv
    rw [List.mem_singleton.mp hv]
    exact count_arguments_bindRole hcolumns hrole hvar
  scope_left := by simpa using hvar
  scope_right := by
    intro arg harg
    rw [List.mem_singleton]
    exact mem_arguments_bindRole harg

end Rel

open RoleSchema.Rel (Predicate Clause Binds)

/-! ## Clauses of the hierarchy -/

theorem wellScoped_containmentClause (name sub super : String) :
    (containmentClause name sub super).WellScoped ∧
      ¬ (containmentClause name sub super).HasBlank :=
  Rel.wellScoped_of_arguments (List.nodup_singleton "v") (by decide) (Rel.arguments_atom _ _)
    (Rel.arguments_atom _ _)

namespace Model

variable {m : Model} {p : Predicate} {c : MandatoryConstraint} {clause : Clause}

/-! ## Clauses about columns -/

theorem wellScoped_typeClause (m : Model) (p : Predicate) :
    (m.typeClause p).WellScoped ∧ ¬ (m.typeClause p).HasBlank := by
  have hlength := Rel.length_freshVariables p.roleIds.length
  refine Rel.wellScoped_of_arguments (Rel.nodup_freshVariables _)
    (Rel.blank_notMem_freshVariables _) (Rel.arguments_atom _ _) ?_
  -- no column is without a variable, and no variable without a column
  rw [Rel.arguments_types _ (fun c => m.roleType c.1) Prod.snd, List.map_snd_zip hlength.le]

/-- The clause of a mandatory constraint binds one column. -/
theorem wellScoped_mandatoryClause (hcolumns : p.roleIds.Nodup)
    (h : m.mandatoryClause c p = some clause) : clause.WellScoped := by
  obtain ⟨role, hrole, rfl⟩ := Option.map_eq_some_iff.mp h
  have hmem : role ∈ p.roleIds := List.mem_of_find?_eq_some hrole
  exact Rel.binds_bindRole hcolumns hmem (by decide) (m.roleType role)

/-- **Clauses are well scoped.** The clause of the types of a relation with a column for each of its
roles, those of mandatory constraints on it, and those that place entity types have different head
variables, each of which stands once on either side; every argument is a head variable or open, and
it is open only in what follows from a mandatory constraint. -/
theorem clauses_wellScoped (m : Model) (p : Predicate) (hcolumns : p.roleIds.Nodup)
    (c : MandatoryConstraint) (e super : ObjectType) :
    ((m.typeClause p).WellScoped ∧ ¬ (m.typeClause p).HasBlank) ∧
    (∀ clause, m.mandatoryClause c p = some clause → clause.WellScoped) ∧
    (∀ clause, topLevelClause e = .ok clause → clause.WellScoped ∧ ¬ clause.HasBlank) ∧
    ∀ clause, subtypeClause e super = .ok clause → clause.WellScoped ∧ ¬ clause.HasBlank := by
  refine ⟨m.wellScoped_typeClause p, fun clause h => wellScoped_mandatoryClause hcolumns h,
    fun clause h => ?_, fun clause h => ?_⟩
  · obtain ⟨name, rfl⟩ := exists_of_topLevelClause h
    exact wellScoped_containmentClause name e.name "Entity"
  · obtain ⟨name, rfl⟩ := exists_of_subtypeClause h
    exact wellScoped_containmentClause name e.name super.name

end Model

/-! ## Ferries -/

namespace Ferries

def ferry : ObjectType := { id := some "ferry", name := "CarFerry", kind := .entity }

def vessel : ObjectType := { id := some "vessel", name := "Vessel", kind := .entity }

/-- Captains sail ferries on days. -/
def model : Model where
  objects := [ferry, vessel, { id := some "person", name := "Captain", kind := .entity },
    { id := some "date", name := "Date", kind := .value, dataType := some "day" }]
  factTypes := [{
    id := some "sailing"
    name := "CaptainSailsCarFerryOnDate"
    roles := [{ id := some "who", factTypeId := some "sailing", playerId := some "person" },
      { id := some "what", factTypeId := some "sailing", playerId := some "ferry" },
      { id := some "when", factTypeId := some "sailing", playerId := some "date" }] }]
  dataTypes := [{ id := some "day", kind := "DateTemporalDataType" }]

/-- The captain of a ferry on a day. -/
def sails : Predicate := ⟨"sails", some "one captain", [some "what", some "when"], [some "who"]⟩

/-- Someone sails on every day. -/
def daily : MandatoryConstraint := { id := some "daily", roleIds := [some "who", some "when"] }

/-- The column of days is between two others. -/
theorem clauses_wellScoped_sails :
    sails.roleIds.Nodup ∧
      ((model.typeClause sails).WellScoped ∧ ¬ (model.typeClause sails).HasBlank) ∧
      (∃ clause, model.mandatoryClause daily sails = some clause ∧ clause.WellScoped ∧
        clause.arguments = ["v", "_", "v", "_"]) ∧
      (∃ clause, topLevelClause vessel = .ok clause ∧ clause.WellScoped ∧ ¬ clause.HasBlank) ∧
      ∃ clause, subtypeClause ferry vessel = .ok clause ∧ clause.WellScoped ∧
        ¬ clause.HasBlank := by
  have hcolumns : sails.roleIds.Nodup := by decide
  obtain ⟨htypes, hmandatory, -, hsubtype⟩ :=
    Model.clauses_wellScoped model sails hcolumns daily ferry vessel
  obtain ⟨-, -, htop, -⟩ := Model.clauses_wellScoped model sails hcolumns daily vessel vessel
  exact ⟨hcolumns, htypes, ⟨_, rfl, hmandatory _ rfl, rfl⟩, ⟨_, rfl, htop _ rfl⟩,
    ⟨_, rfl, hsubtype _ rfl⟩⟩

end Ferries

end RoleSchema
