import Mathlib.Data.List.Forall2
import Mathlib.Order.Hom.Basic
import RoleSchema.Xml.Element

/-!
# Elements put between others

Where elements are put between the children of an element, those that were there keep their order
and move to later positions. What is asked of all elements below is answered as before if the new
ones do not count.

* `Inserted.exists_positions`: the new positions of the elements that were there.
* `Inserted.filter_subtrees`: what is found below.
-/

namespace RoleSchema.Xml

/-- Elements with a property have been put between others. -/
inductive Inserted (new : Element → Prop) : List Element → List Element → Prop
  | nil : Inserted new [] []
  | keep (e : Element) {es es' : List Element} (h : Inserted new es es') :
    Inserted new (e :: es) (e :: es')
  | add {x : Element} (hx : new x) {es es' : List Element} (h : Inserted new es es') :
    Inserted new es (x :: es')

/-! ## Positions -/

/-- Positions that are moved: those of elements as given, and all lower ones not at all. -/
def movedPosition (f : Nat → Nat) : Int → Int
  | .ofNat i => f i
  | .negSucc i => .negSucc i

/-- Positions that are moved behind a first one, which stays. -/
def movedBehind (f : Nat → Nat) : Nat → Nat
  | 0 => 0
  | i + 1 => f i + 1

theorem strictMono_movedBehind {f : Nat → Nat} (hf : StrictMono f) :
    StrictMono (movedBehind f) := by
  intro i j hij
  cases j with
  | zero => exact absurd hij (Nat.not_lt_zero i)
  | succ j =>
    cases i with
    | zero => exact Nat.succ_pos _
    | succ i => exact Nat.succ_lt_succ (hf (Nat.lt_of_succ_lt_succ hij))

theorem movedPosition_lt {f : Nat → Nat} (hf : StrictMono f) {a b : Int} (hab : a < b) :
    movedPosition f a < movedPosition f b := by
  cases b with
  | ofNat j =>
    cases a with
    | ofNat i =>
      have hij : f i < f j := hf (Int.ofNat_lt.mp hab)
      exact Int.ofNat_lt.mpr hij
    | negSucc i => exact Int.lt_of_lt_of_le (Int.negSucc_lt_zero i) (Int.natCast_nonneg _)
  | negSucc j =>
    cases a with
    | ofNat i =>
      have hneg : (Int.ofNat i) < 0 := Int.lt_trans hab (Int.negSucc_lt_zero j)
      exact absurd hneg (Int.not_lt.mpr (Int.natCast_nonneg i))
    | negSucc i => exact hab

namespace Inserted

variable {new : Element → Prop} {es es' : List Element}

theorem refl (es : List Element) : Inserted new es es := by
  induction es with
  | nil => exact .nil
  | cons e es ih => exact .keep e ih

/-- The elements that were there come in their order, at later positions. -/
theorem exists_positions (h : Inserted new es es') :
    ∃ f : Nat → Nat, StrictMono f ∧ ∀ p : Element → Bool, (∀ x, new x → p x = false) →
      es'.zipIdx.filter (fun q => p q.1) =
        (es.zipIdx.filter fun q => p q.1).map fun q => (q.1, f q.2) := by
  have hshift (es : List Element) (p : Element → Bool) :
      (es.zipIdx 1).filter (fun q => p q.1) =
        (es.zipIdx.filter fun q => p q.1).map fun q => (q.1, q.2 + 1) := by
    rw [List.zipIdx_succ, List.filter_map]
    rfl
  induction h with
  | nil => exact ⟨id, strictMono_id, fun _ _ => rfl⟩
  | keep e h ih =>
    obtain ⟨f, hf, hpositions⟩ := ih
    refine ⟨movedBehind f, strictMono_movedBehind hf, fun p hp => ?_⟩
    simp only [List.zipIdx_cons, List.filter_cons, hshift, hpositions p hp]
    split <;> simp [movedBehind]
  | add hx h ih =>
    obtain ⟨f, hf, hpositions⟩ := ih
    refine ⟨fun i => f i + 1, fun i j hij => Nat.succ_lt_succ (hf hij), fun p hp => ?_⟩
    simp only [List.zipIdx_cons, List.filter_cons, hshift, hpositions p hp, hp _ hx]
    simp

end Inserted

/-! ## Elements below -/

namespace Element

theorem subtree_eq (e : Element) : e.subtree = e :: subtrees e.children := by
  cases e
  rw [subtree]

theorem base_of_hasName {e : Element} {space base : String} (h : e.hasName space base = true) :
    e.name.base = base := by
  simp only [hasName, Bool.and_eq_true, beq_iff_eq] at h
  exact h.2

theorem base_of_isSelected {e : Element} {space base : String} (h : e.isSelected space base = true) :
    e.name.base = base := by
  simp only [isSelected, Bool.and_eq_true, beq_iff_eq] at h
  exact h.2

theorem base_of_selectFirst? {e c : Element} {space base : String}
    (h : e.selectFirst? space base = some c) : c.name.base = base := by
  have hselected : c.isSelected space base = true :=
    List.find?_some (p := fun c : Element => c.isSelected space base) h
  exact base_of_isSelected hselected

theorem subtrees_append (es fs : List Element) : subtrees (es ++ fs) = subtrees es ++ subtrees fs := by
  induction es with
  | nil => rw [subtrees, List.nil_append, List.nil_append]
  | cons e es ih => rw [List.cons_append, subtrees, subtrees, ih, List.append_assoc]

end Element

theorem Inserted.filter_subtrees {new : Element → Prop} {es es' : List Element}
    (h : Inserted new es es') {p : Element → Bool}
    (hp : ∀ x, new x → ∀ d ∈ x.subtree, p d = false) :
    (Element.subtrees es').filter p = (Element.subtrees es).filter p := by
  induction h with
  | nil => rfl
  | keep e h ih => simp only [Element.subtrees, List.filter_append, ih]
  | @add x hx es es' h ih =>
    have hnone : x.subtree.filter p = [] :=
      List.filter_eq_nil_iff.mpr fun d hd => by simp [hp x hx d hd]
    rw [Element.subtrees, List.filter_append, hnone, List.nil_append, ih]

/-! ## Elements of one tag -/

/-- Two elements have one name and the same attributes. -/
structure SameTag (e e' : Element) : Prop where
  name : e'.name = e.name
  attributes : e'.attributes = e.attributes

namespace SameTag

variable {e e' : Element}

theorem refl (e : Element) : SameTag e e := ⟨rfl, rfl⟩

theorem hasName (h : SameTag e e') (space base : String) :
    e'.hasName space base = e.hasName space base := by
  unfold Element.hasName
  rw [h.name]

theorem isSelected (h : SameTag e e') (space base : String) :
    e'.isSelected space base = e.isSelected space base := by
  unfold Element.isSelected
  rw [h.name]

theorem attribute? (h : SameTag e e') (base : String) : e'.attribute? base = e.attribute? base := by
  unfold Element.attribute?
  rw [h.attributes]

end SameTag

/-- Searches among related elements find related ones. -/
theorem rel_find? {R : Element → Element → Prop} {p : Element → Bool}
    (hp : ∀ e e', R e e' → p e' = p e) {es es' : List Element} (h : List.Forall₂ R es es') :
    Option.Rel R (es.find? p) (es'.find? p) := by
  induction h with
  | nil => exact .none
  | @cons e e' es es' he _ ih =>
    rw [List.find?_cons, List.find?_cons, hp e e' he]
    split
    · exact .some he
    · exact ih

end RoleSchema.Xml
