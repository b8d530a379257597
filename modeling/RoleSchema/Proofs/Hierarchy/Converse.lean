import RoleSchema.Proofs.Hierarchy.Preorder

/-!
# Supertypes and subtypes

The supertypes of an entity type are found from below and the subtypes from above, and each search
looks up the other end of a subtype fact only. They give one relation all the same: between two
entity types that are found by their own ids, the subtype facts that link them are met in both
searches, each once and in the order of the document.

* `forall₂_superTypes`, `forall₂_subTypes`: one supertype or subtype for each subtype fact.
* `count_superTypes`, `count_subTypes`: how often an entity type is met.
* `superTypes_converse`: the two searches give one relation.
-/

namespace RoleSchema

/-- The subtype facts that place entity types of the model below an entity type. -/
def Model.factsBelow (m : Model) (e : ObjectType) : List SubtypeFact :=
  m.subtypeFacts.filter fun s => s.supertypeId == e.id && (m.entityById s.subtypeId).isSome

/-- The subtype facts that place one entity type below another. -/
def Model.factsBetween (m : Model) (sub super : ObjectType) : List SubtypeFact :=
  m.subtypeFacts.filter fun s => s.subtypeId == sub.id && s.supertypeId == super.id

/-- The supertypes of `sub` and the subtypes of `super` agree on how the two are linked. -/
structure Model.Converse (m : Model) (sub super : ObjectType) : Prop where
  /-- There is a supertype for each subtype fact above, in the order of the document. -/
  above : List.Forall₂ (fun s x => m.entityById s.supertypeId = some x) (m.factsAbove sub)
    (m.superTypes sub)
  /-- There is a subtype for each subtype fact below, in the order of the document. -/
  below : List.Forall₂ (fun s x => m.entityById s.subtypeId = some x) (m.factsBelow super)
    (m.subTypes super)
  /-- Those of the facts above that lead to `super` are all facts between the two. -/
  linksAbove : (m.factsAbove sub).filter (fun s => s.supertypeId == super.id) =
    m.factsBetween sub super
  /-- So are those of the facts below that lead to `sub`. -/
  linksBelow : (m.factsBelow super).filter (fun s => s.subtypeId == sub.id) =
    m.factsBetween sub super
  /-- Each entity type is met as often as the other, and once for each fact between them. -/
  count : (m.superTypes sub).count super = (m.subTypes super).count sub
  countFacts : (m.superTypes sub).count super = (m.factsBetween sub super).length

namespace Model

variable {m : Model} {e x sub super : ObjectType}

/-- An entity type that is found by its own id is found by no other id. -/
theorem IsOwnEntity.entityById_eq_iff (h : m.IsOwnEntity e) {id : Id} :
    m.entityById id = some e ↔ id = e.id := by
  constructor
  · intro hid
    exact (id_of_entityById hid).symm
  · rintro rfl
    exact h

theorem isOwnEntity_of_mem_superTypes (h : x ∈ m.superTypes e) : m.IsOwnEntity x := by
  obtain ⟨s, -, hs⟩ := exists_of_mem_of_forall₂ (forall₂_superTypes e) h
  exact isOwnEntity_of_entityById hs

/-! ## The facts between two entity types -/

/-- There is one subtype for each subtype fact below an entity type. -/
theorem forall₂_subTypes (e : ObjectType) :
    List.Forall₂ (fun s sub => m.entityById s.subtypeId = some sub) (m.factsBelow e)
      (m.subTypes e) :=
  forall₂_linked (fun s => s.supertypeId == e.id) SubtypeFact.subtypeId

/-- Of the facts that have an entity type of the model at one end, those that have a given one there
are told by its id. -/
theorem filter_linked (h : m.IsOwnEntity e) (test : SubtypeFact → Bool) (ref : SubtypeFact → Id) :
    (m.subtypeFacts.filter fun s => test s && (m.entityById (ref s)).isSome).filter
        (fun s => ref s == e.id) =
      m.subtypeFacts.filter fun s => test s && ref s == e.id := by
  rw [List.filter_filter]
  refine List.filter_congr fun s _ => ?_
  by_cases hs : ref s = e.id
  · rw [h.entityById_eq_iff.mpr hs]
    simp [hs]
  · simp [beq_false_of_ne hs]

/-- An entity type is looked up at one end of certain subtype facts once for each fact with its
id there. -/
theorem count_linked (h : m.IsOwnEntity e) (test : SubtypeFact → Bool) (ref : SubtypeFact → Id) :
    (m.subtypeFacts.filterMap fun s => if test s then m.entityById (ref s) else none).count e =
      (m.subtypeFacts.filter fun s => test s && ref s == e.id).length := by
  rw [List.count_filterMap, List.countP_eq_length_filter]
  congr 1
  refine List.filter_congr fun s _ => ?_
  rw [Bool.eq_iff_iff, beq_iff_eq, Option.ite_none_right_eq_some, h.entityById_eq_iff,
    Bool.and_eq_true, beq_iff_eq]

/-- The facts between two entity types, told from above. -/
theorem factsBetween_eq (sub super : ObjectType) : m.factsBetween sub super =
    m.subtypeFacts.filter fun s => s.supertypeId == super.id && s.subtypeId == sub.id :=
  List.filter_congr fun _ _ => Bool.and_comm ..

theorem count_superTypes (h : m.IsOwnEntity super) :
    (m.superTypes sub).count super = (m.factsBetween sub super).length :=
  count_linked h (fun s => s.subtypeId == sub.id) SubtypeFact.supertypeId

theorem count_subTypes (h : m.IsOwnEntity sub) :
    (m.subTypes super).count sub = (m.factsBetween sub super).length := by
  rw [factsBetween_eq]
  exact count_linked h (fun s => s.supertypeId == super.id) SubtypeFact.subtypeId

theorem converse (hsub : m.IsOwnEntity sub) (hsuper : m.IsOwnEntity super) :
    m.Converse sub super where
  above := forall₂_superTypes sub
  below := forall₂_subTypes super
  linksAbove := filter_linked hsuper (fun s => s.subtypeId == sub.id) SubtypeFact.supertypeId
  linksBelow := by
    rw [factsBetween_eq]
    exact filter_linked hsub (fun s => s.supertypeId == super.id) SubtypeFact.subtypeId
  count := (count_superTypes hsuper).trans (count_subTypes hsub).symm
  countFacts := count_superTypes hsuper

/-! ## Entity types without supertypes -/

theorem mem_superTypes_iff (hsub : m.IsOwnEntity sub) (hsuper : m.IsOwnEntity super) :
    super ∈ m.superTypes sub ↔ sub ∈ m.subTypes super := by
  rw [← List.count_pos_iff, ← List.count_pos_iff, (converse hsub hsuper).count]

/-- An entity type has no supertype exactly if it is a subtype of none. -/
theorem isTopLevel_iff (h : m.IsOwnEntity e) :
    m.isTopLevel e = true ↔ ∀ x, m.IsOwnEntity x → e ∉ m.subTypes x := by
  rw [isTopLevel, List.isEmpty_iff, List.eq_nil_iff_forall_not_mem]
  constructor
  · intro hnone x hx hsub
    exact hnone x ((mem_superTypes_iff h hx).mpr hsub)
  · intro hnone x hsuper
    have hx := isOwnEntity_of_mem_superTypes hsuper
    exact hnone x hx ((mem_superTypes_iff h hx).mp hsuper)

/-- **Supertypes and subtypes are one relation.** For entity types that are found by their own ids,
one is a supertype of the other as often as the other is a subtype of it, along the same subtype
facts in the order of the document; and an entity type has no supertypes exactly if it is a subtype
of no entity type of the model. -/
theorem superTypes_converse (hsub : m.IsOwnEntity sub) (hsuper : m.IsOwnEntity super) :
    m.Converse sub super ∧
      (m.isTopLevel sub = true ↔ ∀ x, m.IsOwnEntity x → sub ∉ m.subTypes x) :=
  ⟨converse hsub hsuper, isTopLevel_iff hsub⟩

end Model

/-! ## Vehicles -/

namespace Vehicles

def vehicle : ObjectType := { id := some "vehicle", name := "Vehicle", kind := .entity }

def tram : ObjectType := { id := some "tram", name := "Tram", kind := .entity }

/-- An entity type whose id is taken by another one. -/
def bus : ObjectType := { id := some "tram", name := "Bus", kind := .entity }

def colour : ObjectType := { id := some "colour", name := "Colour", kind := .value }

/-- Trams are said to be vehicles twice, to be themselves, and to be colours and cars, which are no
entity types of the model. -/
def model : Model where
  objects := [vehicle, bus, tram, colour]
  subtypeFacts :=
    [{ id := some "f1", subtypeId := some "tram", supertypeId := some "vehicle" },
      { id := some "f2", subtypeId := some "tram", supertypeId := some "colour" },
      { id := some "f3", subtypeId := some "tram", supertypeId := some "tram" },
      { id := some "f4", subtypeId := some "colour", supertypeId := some "vehicle" },
      { id := some "f5", subtypeId := some "tram", supertypeId := some "car" },
      { id := some "f6", subtypeId := some "tram", supertypeId := some "vehicle" }]

theorem superTypes_converse_trams :
    model.IsOwnEntity tram ∧ model.IsOwnEntity vehicle ∧ model.Converse tram vehicle ∧
      (model.isTopLevel tram = true ↔ ∀ x, model.IsOwnEntity x → tram ∉ model.subTypes x) ∧
      model.superTypes tram = [vehicle, tram, vehicle] ∧ model.subTypes vehicle = [tram, tram] := by
  have htram : model.IsOwnEntity tram := rfl
  have hvehicle : model.IsOwnEntity vehicle := rfl
  obtain ⟨hconverse, htop⟩ := Model.superTypes_converse htram hvehicle
  exact ⟨htram, hvehicle, hconverse, htop, rfl, rfl⟩

end Vehicles

end RoleSchema
