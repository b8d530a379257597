import RoleSchema.Model.Basic

/-!
# Elements in order

Elements are put in order by their positions, and elements of one position keep the order in which
they are given. So it makes no difference whether some elements are left out before or afterwards.

* `pairwise_inOrder`: elements in order are sorted by their positions.
* `filter_inOrder`: what is left of elements in order.
-/

namespace RoleSchema

variable {α : Type} {position : α → Int}

@[simp] theorem mem_inOrder {x : α} {xs : List α} : x ∈ inOrder position xs ↔ x ∈ xs :=
  List.mem_mergeSort

theorem position_le_trans (position : α → Int) (a b c : α) :
    decide (position a ≤ position b) = true → decide (position b ≤ position c) = true →
      decide (position a ≤ position c) = true := by
  simp only [decide_eq_true_eq]
  exact Int.le_trans

theorem position_le_total (position : α → Int) (a b : α) :
    (decide (position a ≤ position b) || decide (position b ≤ position a)) = true := by
  simpa using Int.le_total (position a) (position b)

/-- Positions do not decrease along elements in order. -/
theorem pairwise_inOrder (position : α → Int) (xs : List α) :
    (inOrder position xs).Pairwise fun a b => position a ≤ position b := by
  have h := List.pairwise_mergeSort (position_le_trans position) (position_le_total position) xs
  exact h.imp of_decide_eq_true

/-- An element that is put in front of others comes after those of lower positions only. -/
theorem exists_inOrder_cons (position : α → Int) (x : α) (xs : List α) :
    ∃ before after, inOrder position (x :: xs) = before ++ x :: after ∧
      inOrder position xs = before ++ after ∧
      before = (inOrder position xs).filter fun y => position y < position x := by
  obtain ⟨before, after, hcons, hrest, hlow⟩ :=
    List.mergeSort_cons (position_le_trans position) (position_le_total position) x xs
  have hsorted := pairwise_inOrder position (x :: xs)
  rw [inOrder, hcons] at hsorted
  have hhigh := (List.pairwise_cons.mp (List.pairwise_append.mp hsorted).2.1).1
  have hbefore : before.filter (fun y => position y < position x) = before :=
    List.filter_eq_self.mpr fun y hy => by simpa using hlow y hy
  have hafter : after.filter (fun y => position y < position x) = [] :=
    List.filter_eq_nil_iff.mpr fun y hy => by simpa using hhigh y hy
  refine ⟨before, after, hcons, hrest, ?_⟩
  unfold inOrder
  rw [hrest, List.filter_append, hbefore, hafter, List.append_nil]

/-- Elements may be left out before the others are put in order, or afterwards. -/
theorem filter_inOrder (position : α → Int) (p : α → Bool) (xs : List α) :
    (inOrder position xs).filter p = inOrder position (xs.filter p) := by
  induction xs with
  | nil => simp [inOrder]
  | cons x xs ih =>
    obtain ⟨before, after, hcons, hrest, hlow⟩ := exists_inOrder_cons position x xs
    rw [hcons, List.filter_append, List.filter_cons, List.filter_cons]
    cases hp : p x with
    | false =>
      rw [if_neg Bool.false_ne_true, if_neg Bool.false_ne_true, ← List.filter_append, ← hrest, ih]
    | true =>
      -- both lists are cut where the positions reach that of the element
      obtain ⟨before', after', hcons', hrest', hlow'⟩ :=
        exists_inOrder_cons position x (xs.filter p)
      have hbefore : before' = before.filter p := by
        rw [hlow', ← ih, hlow, List.filter_filter, List.filter_filter]
        simp only [Bool.and_comm]
      have hafter : after' = after.filter p := by
        rw [← ih, hrest, List.filter_append, ← hbefore] at hrest'
        exact (List.append_cancel_left hrest').symm
      rw [if_pos rfl, if_pos rfl, hcons', hbefore, hafter]

end RoleSchema
