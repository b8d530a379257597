import RoleSchema.Proofs.Model.Order
import RoleSchema.Schema
import Mathlib.Data.List.Pairwise

/-!
# Elements that arrive in another order

The elements of a model may be handed over in any order. What counts is their positions, and the
order of those that share one: collections of elements make the same model exactly if they can be
rearranged into each other without a change to the order at any position. Nothing that is asked of
the models or made of them can then tell the collections apart.

* `Rearranged`: lists of the same elements, in the same order at each position.
* `inOrder_eq_iff`: when lists are put into one order.
* `Model.arrival_immaterial`: when collections make the same model, and the same schemas.
-/

namespace RoleSchema

/-- Lists of the same elements, in which those of one position come in the same order. -/
structure Rearranged {α : Type} (position : α → Int) (xs ys : List α) : Prop where
  perm : xs.Perm ys
  ties : ∀ k, xs.filter (fun x => position x == k) = ys.filter fun x => position x == k

/-- Collections of the same elements, in which those of one kind and one position come in the same
order. -/
structure Model.IsRearranged (m m' : Model) : Prop where
  name : m.name = m'.name
  objects : Rearranged ObjectType.order m.objects m'.objects
  factTypes : Rearranged FactType.order m.factTypes m'.factTypes
  subtypeFacts : Rearranged SubtypeFact.order m.subtypeFacts m'.subtypeFacts
  uniquenessConstraints : Rearranged UniquenessConstraint.order m.uniquenessConstraints
    m'.uniquenessConstraints
  mandatoryConstraints : Rearranged MandatoryConstraint.order m.mandatoryConstraints
    m'.mandatoryConstraints
  dataTypes : Rearranged DataType.order m.dataTypes m'.dataTypes
  diagrams : Rearranged Diagram.order m.diagrams m'.diagrams

section

variable {α : Type} {position : α → Int} {xs ys zs : List α}

/-! ## Rearranged lists -/

namespace Rearranged

theorem refl (position : α → Int) (xs : List α) : Rearranged position xs xs :=
  ⟨.refl xs, fun _ => rfl⟩

theorem symm (h : Rearranged position xs ys) : Rearranged position ys xs :=
  ⟨h.perm.symm, fun k => (h.ties k).symm⟩

theorem trans (h : Rearranged position xs ys) (h' : Rearranged position ys zs) :
    Rearranged position xs zs :=
  ⟨h.perm.trans h'.perm, fun k => (h.ties k).trans (h'.ties k)⟩

/-- Two elements of different positions may change places. -/
theorem swap {x y : α} (h : position x ≠ position y) (xs : List α) :
    Rearranged position (x :: y :: xs) (y :: x :: xs) where
  perm := .swap y x xs
  ties := by
    intro k
    by_cases hx : position x = k
    · have hy : position y ≠ k := fun hy => h (hx.trans hy.symm)
      simp [hx, hy]
    · simp [List.filter_cons, hx]

end Rearranged

/-! ## Lists in order -/

/-- Elements that are in order already are left as they are. -/
theorem inOrder_of_pairwise (h : xs.Pairwise fun x y => position x ≤ position y) :
    inOrder position xs = xs :=
  List.mergeSort_of_pairwise (h.imp decide_eq_true)

/-- To put elements in order is to rearrange them. -/
theorem rearranged_inOrder (position : α → Int) (xs : List α) :
    Rearranged position xs (inOrder position xs) where
  perm := (List.mergeSort_perm xs _).symm
  ties := by
    intro k
    rw [filter_inOrder, inOrder_of_pairwise]
    refine List.pairwise_of_forall_mem_list fun x hx y hy => ?_
    have hx := beq_iff_eq.mp (List.mem_filter.mp hx).2
    have hy := beq_iff_eq.mp (List.mem_filter.mp hy).2
    omega

theorem position_head_le {x y : α} (h : (y :: ys).Pairwise fun x y => position x ≤ position y)
    (hx : x ∈ y :: ys) : position y ≤ position x := by
  rcases List.mem_cons.mp hx with rfl | hx
  · exact Int.le_refl _
  · exact (List.pairwise_cons.mp h).1 x hx

/-- Elements in order are known from those at each position. -/
theorem Rearranged.eq_of_pairwise (h : Rearranged position xs ys)
    (hxs : xs.Pairwise fun x y => position x ≤ position y)
    (hys : ys.Pairwise fun x y => position x ≤ position y) : xs = ys := by
  induction xs generalizing ys with
  | nil => exact h.perm.nil_eq
  | cons x xs ih =>
    cases ys with
    | nil => exact h.perm.eq_nil
    | cons y ys =>
      -- each of the first elements is somewhere in the other list, so that their positions agree
      have hle := position_head_le hys (h.perm.mem_iff.mp (List.mem_cons_self ..))
      have hge := position_head_le hxs (h.perm.mem_iff.mpr (List.mem_cons_self ..))
      have hposition : position y = position x := Int.le_antisymm hle hge
      have hfirst := h.ties (position x)
      rw [List.filter_cons_of_pos (by simp), List.filter_cons_of_pos (by simp [hposition])] at hfirst
      obtain ⟨rfl, hrest⟩ := List.cons.inj hfirst
      have htail : Rearranged position xs ys := by
        refine ⟨h.perm.cons_inv, fun k => ?_⟩
        by_cases hk : position x = k
        · rw [← hk, hrest]
        · have hties := h.ties k
          rwa [List.filter_cons_of_neg (by simpa using hk),
            List.filter_cons_of_neg (by simpa using hk)] at hties
      rw [ih htail hxs.of_cons hys.of_cons]

/-- Lists are put into one order exactly if they are rearrangements of each other. -/
theorem inOrder_eq_iff : inOrder position xs = inOrder position ys ↔ Rearranged position xs ys := by
  have hxs := rearranged_inOrder position xs
  have hys := rearranged_inOrder position ys
  constructor
  · intro h
    rw [h] at hxs
    exact hxs.trans hys.symm
  · intro h
    exact ((hxs.symm.trans h).trans hys).eq_of_pairwise (pairwise_inOrder _ _) (pairwise_inOrder _ _)

end

/-! ## Models -/

namespace Model

variable {m m' : Model}

theorem sorted_eq_iff : m.sorted = m'.sorted ↔ m.IsRearranged m' := by
  constructor
  · intro h
    exact
      { name := (congrArg Model.name h :)
        objects := inOrder_eq_iff.mp (congrArg Model.objects h)
        factTypes := inOrder_eq_iff.mp (congrArg Model.factTypes h)
        subtypeFacts := inOrder_eq_iff.mp (congrArg Model.subtypeFacts h)
        uniquenessConstraints := inOrder_eq_iff.mp (congrArg Model.uniquenessConstraints h)
        mandatoryConstraints := inOrder_eq_iff.mp (congrArg Model.mandatoryConstraints h)
        dataTypes := inOrder_eq_iff.mp (congrArg Model.dataTypes h)
        diagrams := inOrder_eq_iff.mp (congrArg Model.diagrams h) }
  · intro h
    simp only [sorted, h.name, inOrder_eq_iff.mpr h.objects, inOrder_eq_iff.mpr h.factTypes,
      inOrder_eq_iff.mpr h.subtypeFacts, inOrder_eq_iff.mpr h.uniquenessConstraints,
      inOrder_eq_iff.mpr h.mandatoryConstraints, inOrder_eq_iff.mpr h.dataTypes,
      inOrder_eq_iff.mpr h.diagrams]

/-- **The order of arrival does not matter.** Two collections of elements make one and the same
model, in which every question has one answer, exactly if each is a rearrangement of the other that
keeps the order at each position; and then the same schemas are made with the same events. -/
theorem arrival_immaterial (m m' : Model) :
    (m.sorted = m'.sorted ↔ m.IsRearranged m') ∧
      (m.IsRearranged m' → ∀ template, m.sorted.schemas template = m'.sorted.schemas template) := by
  refine ⟨sorted_eq_iff, fun h template => ?_⟩
  rw [sorted_eq_iff.mpr h]

end Model

/-! ## Harbours -/

namespace Harbours

def ferry : ObjectType := { id := some "ferry", name := "Ferry", kind := .entity, order := 1 }

def harbour : ObjectType := { id := some "harbour", name := "Harbour", kind := .entity }

/-- A second object type with the name and the position of ferries. -/
def boat : ObjectType := { id := some "boat", name := "Ferry", kind := .entity, order := 1 }

def diagram : Diagram where
  id := some "diagram"
  name := "Ferry:concept"
  subjectRefs := [some "ferry", some "boat"]

def model (objects : List ObjectType) : Model where
  objects := objects
  diagrams := [diagram]

/-- Harbours may arrive before ferries or after them. The order of ferries and boats, which share a
position, is not to be changed. -/
theorem arrival_immaterial_harbours :
    (model [ferry, harbour, boat]).IsRearranged (model [harbour, ferry, boat]) ∧
      (model [ferry, harbour, boat]).sorted = (model [harbour, ferry, boat]).sorted ∧
      (∀ template, (model [ferry, harbour, boat]).sorted.schemas template =
        (model [harbour, ferry, boat]).sorted.schemas template) ∧
      (model [ferry, harbour, boat]).sorted ≠ (model [boat, harbour, ferry]).sorted := by
  have hobjects : Rearranged ObjectType.order [ferry, harbour, boat] [harbour, ferry, boat] :=
    .swap (by decide) [boat]
  have h : (model [ferry, harbour, boat]).IsRearranged (model [harbour, ferry, boat]) :=
    { name := rfl
      objects := hobjects
      factTypes := .refl _ _
      subtypeFacts := .refl _ _
      uniquenessConstraints := .refl _ _
      mandatoryConstraints := .refl _ _
      dataTypes := .refl _ _
      diagrams := .refl _ _ }
  obtain ⟨hiff, hschemas⟩ := Model.arrival_immaterial _ _
  refine ⟨h, hiff.mpr h, hschemas h, fun hsame => ?_⟩
  have hties := (Model.sorted_eq_iff.mp hsame).objects.ties 1
  exact absurd hties (by decide)

end Harbours

end RoleSchema
