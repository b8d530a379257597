import RoleSchema.Rel.Syntax
import Mathlib.Data.List.Forall2
import Mathlib.Data.Set.Basic

/-!
# What clauses say

An interpretation gives a set of values to every name of a type and a set of rows to every
predicate. `Formula.Holds` and `Clause.Holds` are the truth of formulas and clauses in an
interpretation: an atom holds when some row matches its arguments, where `_` matches any value, and
`function(p)` says that two rows of `p` that agree on all columns but the last are equal. A clause
holds when its body does whatever the variables stand for.
-/

namespace RoleSchema.Rel

/-- What the names of types and the predicates stand for, with values in `V`. -/
structure Interpretation (V : Type) where
  types : String → Set V
  rows : Predicate → Set (List V)

variable {V : Type}

/-- The rows of a relation: a type has a row of one column for each of its instances. -/
def Interpretation.relation (I : Interpretation V) : Relation → Set (List V)
  | .type name => {row | ∃ x ∈ I.types name, row = [x]}
  | .predicate p => I.rows p
  | .misplaced _ => ∅

/-- A value is what an argument asks for: `_` takes any value, a variable its own. -/
def Fits (ρ : String → V) (arg : String) (x : V) : Prop := arg = "_" ∨ ρ arg = x

mutual

/-- The truth of a formula when its variables stand for the values of `ρ`. -/
def Formula.Holds (I : Interpretation V) (ρ : String → V) : Formula → Prop
  | .atom relation args => ∃ row ∈ I.relation relation, List.Forall₂ (Fits ρ) args row
  | .conj conjuncts => Formula.AllHold I ρ conjuncts
  | .implies antecedent consequent => antecedent.Holds I ρ → consequent.Holds I ρ
  | .function relation =>
    ∀ x ∈ I.relation relation, ∀ y ∈ I.relation relation, x.dropLast = y.dropLast → x = y
  | .misplaced _ => False

/-- The truth of all formulas of a list. -/
def Formula.AllHold (I : Interpretation V) (ρ : String → V) : List Formula → Prop
  | [] => True
  | f :: fs => f.Holds I ρ ∧ Formula.AllHold I ρ fs

end

/-- The truth of a clause; a constraint that is known to be missing says nothing. -/
def Clause.Holds (I : Interpretation V) : Clause → Prop
  | .constraint _ _ body => ∀ ρ, body.Holds I ρ
  | .unsupported _ => True
  | .misplaced _ => False

variable {I : Interpretation V} {ρ : String → V}

@[simp] theorem holds_implies {antecedent consequent : Formula} :
    (Formula.implies antecedent consequent).Holds I ρ ↔
      (antecedent.Holds I ρ → consequent.Holds I ρ) := by
  simp only [Formula.Holds]

@[simp] theorem holds_constraint {name : String} {vars : List String} {body : Formula} :
    (Clause.constraint name vars body).Holds I ↔ ∀ ρ, body.Holds I ρ := Iff.rfl

/-! ## Atoms -/

/-- An atom of a type says that the value of its variable is an instance. -/
theorem holds_type_atom {name var : String} (hv : var ≠ "_") :
    (Formula.atom (.type name) [var]).Holds I ρ ↔ ρ var ∈ I.types name := by
  simp only [Formula.Holds, Interpretation.relation, Set.mem_ofPred_eq]
  constructor
  · rintro ⟨_, ⟨x, hx, rfl⟩, h⟩
    cases h with
    | cons h _ =>
      rcases h with h | rfl
      · exact absurd h hv
      · exact hx
  · intro h
    exact ⟨[ρ var], ⟨_, h, rfl⟩, .cons (Or.inr rfl) .nil⟩

theorem forall₂_fits_bind {role : Id} {var : String} (hv : var ≠ "_") (t : Id → V)
    (columns : List Id) :
    List.Forall₂ (Fits ρ) (columns.map fun r => if r == role then var else "_") (columns.map t) ↔
      (role ∈ columns → ρ var = t role) := by
  induction columns with
  | nil => simp
  | cons r rest ih =>
    rw [List.map_cons, List.map_cons, List.forall₂_cons, ih]
    by_cases hr : r = role
    · subst hr
      simp only [Fits, beq_self_eq_true, if_true, hv, false_or, List.mem_cons, true_or,
        forall_const, and_iff_left_iff_imp]
      exact fun h _ => h
    · have hne : role ≠ r := fun h => hr h.symm
      simp [Fits, hr, hne]

end RoleSchema.Rel
