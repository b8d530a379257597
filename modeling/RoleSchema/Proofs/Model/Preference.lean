import Mathlib.Data.List.Find
import RoleSchema.Proofs.Model.Lookup

/-!
# Which of several elements a look-up prefers

Where several elements match, a look-up by name or by role finds the one that is declared first,
and a look-up by id the one that is declared last. Either finds nothing only where nothing matches,
and nothing bears an id that is missing or empty. So all look-ups prefer the first declared element
exactly if no id is given to different elements that come first and last under it.

* `PicksFirst`, `PicksLast`: the first and the last element that matches, or none.
* `forall_picksFirst_iff`: when the last element under each id is the first one.
* `Model.lookups_prefer_first_iff`: the look-ups of a model.
* `Places.lookups_prefer_last`: a room and a hall under one id.
-/

namespace RoleSchema

section

variable {α : Type} {p : α → Bool} {xs : List α} {o : Option α}

/-- The first element that satisfies a test, or none where no element does. -/
def PicksFirst (p : α → Bool) (xs : List α) : Option α → Prop
  | none => ∀ x ∈ xs, p x = false
  | some x => p x = true ∧ ∃ before after, xs = before ++ x :: after ∧ ∀ y ∈ before, p y = false

/-- The last element that satisfies a test, or none where no element does. -/
def PicksLast (p : α → Bool) (xs : List α) : Option α → Prop
  | none => ∀ x ∈ xs, p x = false
  | some x => p x = true ∧ ∃ before after, xs = before ++ x :: after ∧ ∀ y ∈ after, p y = false

theorem picksFirst_find? (p : α → Bool) (xs : List α) : PicksFirst p xs (xs.find? p) := by
  cases h : xs.find? p with
  | none => simpa [PicksFirst] using h
  | some x =>
    obtain ⟨hx, before, after, hxs, hbefore⟩ := List.find?_eq_some_iff_append.mp h
    exact ⟨hx, before, after, hxs, by simpa using hbefore⟩

theorem PicksFirst.eq_find? (h : PicksFirst p xs o) : o = xs.find? p := by
  cases o with
  | none => exact (List.find?_eq_none.mpr (by simpa [PicksFirst] using h)).symm
  | some x =>
    obtain ⟨hx, before, after, rfl, hbefore⟩ := h
    refine (List.find?_eq_some_iff_append.mpr ⟨hx, before, after, rfl, ?_⟩).symm
    simpa using hbefore

theorem picksFirst_reverse : PicksFirst p xs.reverse o ↔ PicksLast p xs o := by
  cases o with
  | none => simp only [PicksFirst, PicksLast, List.mem_reverse]
  | some x =>
    refine and_congr_right fun _ => ⟨?_, ?_⟩
    · rintro ⟨before, after, hxs, hbefore⟩
      refine ⟨after.reverse, before.reverse, ?_, by simpa using hbefore⟩
      rw [← List.reverse_reverse xs, hxs]
      simp
    · rintro ⟨before, after, rfl, hafter⟩
      exact ⟨after.reverse, before.reverse, by simp, by simpa using hafter⟩

theorem picksLast_findLast? (p : α → Bool) (xs : List α) : PicksLast p xs (findLast? p xs) :=
  picksFirst_reverse.mp (picksFirst_find? p xs.reverse)

theorem PicksLast.eq_findLast? (h : PicksLast p xs o) : o = findLast? p xs :=
  (picksFirst_reverse.mpr h).eq_find?

/-! ## Elements under one id -/

variable {idOf : α → Id}

/-- Whether an element bears an id that is given. -/
def bears (idOf : α → Id) (id : Id) (x : α) : Bool := id.isGiven && idOf x == id

/-- Wherever an id is given to several elements, the last of them is the first one again. -/
def Uncontested (idOf : α → Id) (xs : List α) : Prop :=
  ∀ before x between y after, xs = before ++ x :: between ++ y :: after →
    (idOf x).isGiven = true → idOf y = idOf x → (∀ z ∈ before ++ after, idOf z ≠ idOf x) → y = x

theorem bears_iff {id : Id} {x : α} :
    bears idOf id x = true ↔ id.isGiven = true ∧ idOf x = id := by
  simp [bears]

theorem bears_of_ne {id : Id} {x : α} (h : idOf x ≠ id) : bears idOf id x = false := by
  simp [bears, h]

theorem ne_of_bears {id : Id} {x : α} (hid : id.isGiven = true) (h : bears idOf id x = false) :
    idOf x ≠ id := by
  simpa [bears, hid] using h

/-- The look-up by id, in which the last element counts. -/
def lookUp (idOf : α → Id) (xs : List α) (id : Id) : Option α :=
  if id.isGiven then findLast? (fun x => idOf x == id) xs else none

theorem lookUp_eq_findLast? (id : Id) : lookUp idOf xs id = findLast? (bears idOf id) xs := by
  unfold lookUp findLast?
  split
  · next hid => exact List.find?_congr fun x _ => by simp [bears, hid]
  · next hid => exact (List.find?_eq_none.mpr fun x _ => by simp [bears, hid]).symm

theorem picksLast_lookUp (id : Id) : PicksLast (bears idOf id) xs (lookUp idOf xs id) := by
  rw [lookUp_eq_findLast?]
  exact picksLast_findLast? _ _

/-- Looking for the last element under each id finds the first one exactly if no id is contested. -/
theorem forall_picksFirst_iff :
    (∀ id, PicksFirst (bears idOf id) xs (lookUp idOf xs id)) ↔ Uncontested idOf xs := by
  simp only [lookUp_eq_findLast?]
  constructor
  · intro h before x between y after hxs hgiven hy hothers
    have hx : bears idOf (idOf x) x = true := bears_iff.mpr ⟨hgiven, rfl⟩
    have hfirst : PicksFirst (bears idOf (idOf x)) xs (some x) :=
      ⟨hx, before, between ++ y :: after, by simp [hxs], fun z hz =>
        bears_of_ne (hothers z (List.mem_append_left _ hz))⟩
    have hlast : PicksLast (bears idOf (idOf x)) xs (some y) :=
      ⟨bears_iff.mpr ⟨hgiven, hy⟩, before ++ x :: between, after, hxs, fun z hz =>
        bears_of_ne (hothers z (List.mem_append_right _ hz))⟩
    have hsame := h (idOf x)
    rw [← hlast.eq_findLast?] at hsame
    exact Option.some.inj (hsame.eq_find?.trans hfirst.eq_find?.symm)
  · intro h id
    have hlast := picksLast_findLast? (bears idOf id) xs
    cases hy : findLast? (bears idOf id) xs with
    | none =>
      rw [hy] at hlast
      exact hlast
    | some y =>
      rw [hy] at hlast
      obtain ⟨hbears, before, after, hxs, hafter⟩ := hlast
      obtain ⟨hgiven, rfl⟩ := bears_iff.mp hbears
      refine ⟨hbears, ?_⟩
      -- either nothing before the last element bears the id, or it is the first one once more
      have hfirst := picksFirst_find? (bears idOf (idOf y)) before
      cases hx : before.find? (bears idOf (idOf y)) with
      | none =>
        rw [hx] at hfirst
        exact ⟨before, after, hxs, hfirst⟩
      | some x =>
        rw [hx] at hfirst
        obtain ⟨hbears', first, between, rfl, hnone⟩ := hfirst
        have hid : idOf x = idOf y := (bears_iff.mp hbears').2
        obtain rfl : y = x := by
          refine h first x between y after (by simpa using hxs) (hid ▸ hgiven) hid.symm ?_
          intro z hz
          rw [hid]
          rcases List.mem_append.mp hz with hz | hz
          · exact ne_of_bears hgiven (hnone z hz)
          · exact ne_of_bears hgiven (hafter z hz)
        exact ⟨first, between ++ y :: after, by simpa using hxs, hnone⟩

end

namespace Model

variable (m : Model)

/-- What each look-up by id picks among the elements of its kind that bear the id. -/
structure PicksById (Picks : {α : Type} → (α → Bool) → List α → Option α → Prop) : Prop where
  objects : ∀ id, Picks (bears ObjectType.id id) m.objects (m.objectById id)
  factTypes : ∀ id, Picks (bears FactType.id id) m.factTypes (m.factTypeById id)
  uniquenessConstraints : ∀ id,
    Picks (bears UniquenessConstraint.id id) m.uniquenessConstraints (m.uniquenessById id)
  mandatoryConstraints : ∀ id,
    Picks (bears MandatoryConstraint.id id) m.mandatoryConstraints (m.mandatoryById id)
  dataTypes : ∀ id, Picks (bears DataType.id id) m.dataTypes (m.dataTypeById id)

/-- No id is given to elements of one kind of which the last is not the first. -/
structure IdsUncontested : Prop where
  objects : Uncontested ObjectType.id m.objects
  factTypes : Uncontested FactType.id m.factTypes
  uniquenessConstraints : Uncontested UniquenessConstraint.id m.uniquenessConstraints
  mandatoryConstraints : Uncontested MandatoryConstraint.id m.mandatoryConstraints
  dataTypes : Uncontested DataType.id m.dataTypes

variable {m}

/-- **Which element a look-up finds.** Look-ups by name and by role find the first element that
matches, look-ups by id the last; each finds none only where none matches, as none does an id that is
missing or empty. Look-ups by id too find the first exactly if no id is contested. -/
theorem lookups_prefer_first_iff (m : Model) :
    (∀ name, PicksFirst (fun o => o.isEntity && o.name == name) m.objects (m.entityByName name)) ∧
      (∀ role, PicksFirst (fun f => f.roleIds.contains role) m.factTypes (m.factTypeWithRole role)) ∧
      m.PicksById PicksLast ∧ (m.PicksById PicksFirst ↔ m.IdsUncontested) := by
  refine ⟨fun name => picksFirst_find? _ _, fun role => picksFirst_find? _ _, ?_, ?_⟩
  · constructor <;> exact fun id => picksLast_lookUp id
  · constructor
    · rintro ⟨ho, hf, hu, hc, hd⟩
      constructor
      · exact forall_picksFirst_iff.mp ho
      · exact forall_picksFirst_iff.mp hf
      · exact forall_picksFirst_iff.mp hu
      · exact forall_picksFirst_iff.mp hc
      · exact forall_picksFirst_iff.mp hd
    · rintro ⟨ho, hf, hu, hc, hd⟩
      constructor
      · exact forall_picksFirst_iff.mpr ho
      · exact forall_picksFirst_iff.mpr hf
      · exact forall_picksFirst_iff.mpr hu
      · exact forall_picksFirst_iff.mpr hc
      · exact forall_picksFirst_iff.mpr hd

end Model

/-! ## Places -/

namespace Places

def room : ObjectType := { id := some "place", name := "Room", kind := .entity }

def hall : ObjectType := { id := some "place", name := "Hall", kind := .entity, order := 1 }

/-- A room and a hall under one id. -/
def model : Model where
  objects := [room, hall]

/-- Under the id of both, the hall is found, which is declared after the room. -/
theorem lookups_prefer_last :
    model.objectById (some "place") = some hall ∧ ¬ model.PicksById PicksFirst := by
  have hfound : model.objectById (some "place") = some hall := by decide
  refine ⟨hfound, fun h => ?_⟩
  have hfirst := (h.objects (some "place")).eq_find?
  rw [hfound] at hfirst
  exact absurd hfirst (by decide)

end Places

end RoleSchema
