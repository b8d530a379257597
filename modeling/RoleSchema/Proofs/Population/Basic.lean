import RoleSchema.Proofs.Rel.Meaning
import RoleSchema.Proofs.Relation.Clauses

/-!
# Populations of a fact type

A population is a finite collection of tuples, each with a value for every role. A relation holds
the tuples of a population, each in the order of the columns of the relation. `holds_bindRole` says
what an atom means that binds the columns of one role.
-/

namespace RoleSchema

open RoleSchema.Rel (Predicate Formula Clause Interpretation)

/-- Finitely many tuples, each with a value for every role of a fact type. What a tuple gives to
other ids plays no part. -/
abbrev Population (V : Type) := List (Id → V)

namespace Population

variable {V : Type}

/-- The rows of a relation: the values of each tuple at the columns. -/
def rows (P : Population V) (p : Predicate) : Set (List V) :=
  {row | ∃ t ∈ P, row = p.roleIds.map t}

/-- Tuples that agree at the roles of a uniqueness constraint are equal. -/
def Obeys (P : Population V) (f : FactType) (u : UniquenessConstraint) : Prop :=
  ∀ s ∈ P, ∀ t ∈ P, (∀ role ∈ u.roleIds, s role = t role) → ∀ role ∈ f.roleIds, s role = t role

variable {P : Population V} {types : String → Set V} {ρ : String → V}

/-- An atom that binds the columns of one role holds when some tuple has the value there. -/
theorem holds_bindRole {p : Predicate} {role : Id} {var : String} (hv : var ≠ "_")
    (hr : role ∈ p.roleIds) :
    (p.bindRole role var).Holds ⟨types, P.rows⟩ ρ ↔ ∃ t ∈ P, t role = ρ var := by
  simp only [Predicate.bindRole, Formula.Holds, Interpretation.relation, rows, Set.mem_ofPred_eq]
  constructor
  · rintro ⟨_, ⟨t, ht, rfl⟩, h⟩
    exact ⟨t, ht, ((Rel.forall₂_fits_bind hv t p.roleIds).mp h hr).symm⟩
  · rintro ⟨t, ht, h⟩
    exact ⟨_, ⟨t, ht, rfl⟩, (Rel.forall₂_fits_bind hv t p.roleIds).mpr fun _ => h.symm⟩

end Population

end RoleSchema
