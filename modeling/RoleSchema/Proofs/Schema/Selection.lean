import RoleSchema.Proofs.Model.Lookup
import RoleSchema.Proofs.Result
import RoleSchema.Schema
import Mathlib.Data.List.Induction
import Mathlib.Data.List.Nodup
import Mathlib.Data.List.Pairwise

/-!
# The fact types of a schema

A schema has a section for each fact type that its diagram refers to, in the order in which the
diagram first refers to them, and for the fact type that identifies the concept. A diagram may refer
to a fact type more than once, to none of the model, or to nothing at all, and it may have drawn the
identifying fact type already; no fact type is taken twice.

* `pairwise_idxOf_eraseDups`: what is looked up and taken once is in the order of first references.
* `Model.drawnOn_factTypesInDiagram`: the fact types that a diagram draws.
* `Model.identifyingFactType_eq_some_iff`: the fact type that identifies an entity type.
* `Model.factTypesFor_selects`: the fact types of a schema.
-/

namespace RoleSchema

/-! ## First references -/

section

variable {α β : Type} [BEq α] [LawfulBEq α] [BEq β] [LawfulBEq β]

theorem eraseDups_concat (xs : List α) (x : α) :
    (xs ++ [x]).eraseDups = xs.eraseDups ++ if xs.contains x then [] else [x] := by
  rw [List.eraseDups_append]
  by_cases hx : x ∈ xs
  · simp [List.removeAll, hx]
  · simp [List.removeAll, hx, List.eraseDups_cons]

/-- What is looked up along references and taken once each is in the order of the first
references. -/
theorem pairwise_idxOf_eraseDups {find : α → Option β} {idOf : β → α}
    (h : ∀ a b, find a = some b → idOf b = a) (refs : List α) :
    (refs.filterMap find).eraseDups.Pairwise fun x y =>
      refs.idxOf (idOf x) < refs.idxOf (idOf y) := by
  have href (refs : List α) : ∀ x ∈ (refs.filterMap find).eraseDups, idOf x ∈ refs := by
    intro x hx
    obtain ⟨a, ha, hfind⟩ := List.mem_filterMap.mp (List.mem_eraseDups.mp hx)
    rwa [h a x hfind]
  -- the induction is on the last reference: what it adds is first referred to after all else
  induction refs using List.reverseRecOn with
  | nil => exact .nil
  | append_singleton refs a ih =>
    have hbefore : (refs.filterMap find).eraseDups.Pairwise fun x y =>
        (refs ++ [a]).idxOf (idOf x) < (refs ++ [a]).idxOf (idOf y) := by
      refine ih.imp_of_mem fun hx hy hlt => ?_
      rwa [List.idxOf_append_of_mem (href refs _ hx), List.idxOf_append_of_mem (href refs _ hy)]
    cases hfind : find a with
    | none => simpa [hfind] using hbefore
    | some b =>
      rw [List.filterMap_append, List.filterMap_cons_some hfind, List.filterMap_nil,
        eraseDups_concat]
      split
      · simpa using hbefore
      · next hnew =>
        have ha : a ∉ refs := fun ha =>
          hnew (List.contains_iff_mem.mpr (List.mem_filterMap.mpr ⟨a, ha, hfind⟩))
        refine List.pairwise_append.mpr ⟨hbefore, List.pairwise_singleton _ _, fun x hx y hy => ?_⟩
        have hx := href refs x hx
        rw [List.mem_singleton.mp hy, h a b hfind, List.idxOf_append_of_mem hx,
          List.idxOf_append_of_notMem ha]
        exact Nat.lt_of_lt_of_le (List.idxOf_lt_length_of_mem hx) (Nat.le_add_right ..)

end

/-! ## What is selected -/

/-- The fact type that is added to those drawn: the one that identifies a concept with a reference
mode, unless it is drawn. -/
def Model.addedTo (m : Model) (drawn : List FactType) (e : ObjectType) : List FactType :=
  if e.referenceMode = "" then [] else (m.identifyingFactType e).toList.filter (· ∉ drawn)

/-- The finding that no fact type identifies a concept with a reference mode. -/
def Model.unrealised? (m : Model) (e : ObjectType) : Option Diagnostic :=
  if e.referenceMode = "" ∨ (m.identifyingFactType e).isSome then none
  else some (.missingIdentifyingFactType e)

/-- Every fact type has an id of its own that is given, and every role an id of its own. -/
structure Model.FactTypesIdentified (m : Model) : Prop where
  given : ∀ f ∈ m.factTypes, f.id.isGiven = true
  distinct : (m.factTypes.map FactType.id).Nodup
  roles : (m.factTypes.flatMap FactType.roleIds).Nodup

/-- The fact types that a diagram refers to, in the order of the first references. -/
structure Model.DrawnOn (m : Model) (d : Diagram) (drawn : List FactType) : Prop where
  mem_iff : ∀ f, f ∈ drawn ↔ f ∈ m.factTypes ∧ f.id ∈ d.factTypeRefs
  inOrder : drawn.Pairwise fun f g => d.factTypeRefs.idxOf f.id < d.factTypeRefs.idxOf g.id

/-- A fact type realises the identifier of an entity type: the identifier is found and spans one of
its roles and nothing else. -/
def Model.Realises (m : Model) (f : FactType) (e : ObjectType) : Prop :=
  f ∈ m.factTypes ∧ ∃ u role, m.uniquenessById e.preferredIdentifier = some u ∧
    u.roleIds = [role] ∧ role ∈ f.roleIds

/-- The fact types of the schema of a concept on a diagram: those that are drawn, followed by those
that are added. -/
structure Model.Selects (m : Model) (e : ObjectType) (d : Diagram) (drawn added : List FactType) :
    Prop where
  drawnOn : m.DrawnOn d drawn
  /-- What is added realises the reference mode of the concept. -/
  added_iff : ∀ f, f ∈ added ↔ e.referenceMode ≠ "" ∧ m.Realises f e ∧ f ∉ drawn
  single : ∀ f ∈ added, added = [f]
  once : ((drawn ++ added).map FactType.id).Nodup
  result : (m.factTypesFor e d).result = .ok (drawn ++ added)
  /-- A reference mode that no fact type realises is found once. -/
  missing : e.referenceMode ≠ "" → (∀ f, ¬ m.Realises f e) →
    (m.factTypesFor e d).diagnostics = [.missingIdentifyingFactType e]
  /-- Nothing else is found. -/
  silent : (e.referenceMode = "" ∨ ∃ f, m.Realises f e) → (m.factTypesFor e d).diagnostics = []

namespace Model

variable {m : Model} {d : Diagram} {e : ObjectType} {f g : FactType}

namespace FactTypesIdentified

/-! ## Fact types and their ids -/

theorem eq_of_id_eq (h : m.FactTypesIdentified) (hf : f ∈ m.factTypes) (hg : g ∈ m.factTypes)
    (hid : f.id = g.id) : f = g :=
  List.inj_on_of_nodup_map h.distinct hf hg hid

theorem factTypeById_eq_some_iff (h : m.FactTypesIdentified) {id : Id} :
    m.factTypeById id = some f ↔ f ∈ m.factTypes ∧ f.id = id := by
  constructor
  · intro hfound
    exact (factTypeById_eq_some hfound).2
  · rintro ⟨hf, rfl⟩
    obtain ⟨g, hg⟩ : ∃ g, m.factTypeById f.id = some g := by
      rw [factTypeById, if_pos (h.given f hf), ← Option.isSome_iff_exists, findLast?,
        List.find?_isSome]
      exact ⟨f, List.mem_reverse.mpr hf, by simp⟩
    obtain ⟨-, hmem, hid⟩ := factTypeById_eq_some hg
    rw [hg, h.eq_of_id_eq hmem hf hid]

theorem factTypeWithRole_eq_some_iff (h : m.FactTypesIdentified) {role : Id} :
    m.factTypeWithRole role = some f ↔ f ∈ m.factTypes ∧ role ∈ f.roleIds := by
  constructor
  · intro hfound
    exact ⟨List.mem_of_find?_eq_some hfound, by simpa using List.find?_some hfound⟩
  · rintro ⟨hf, hrole⟩
    obtain ⟨g, hg⟩ : ∃ g, m.factTypeWithRole role = some g := by
      rw [factTypeWithRole, ← Option.isSome_iff_exists, List.find?_isSome]
      exact ⟨f, hf, by simpa using hrole⟩
    have hrg : role ∈ g.roleIds := by simpa using List.find?_some hg
    rw [hg, FactType.eq_of_mem_roleIds h.roles (List.mem_of_find?_eq_some hg) hf hrg hrole]

end FactTypesIdentified

/-! ## The fact types of a diagram -/

theorem drawnOn_factTypesInDiagram (h : m.FactTypesIdentified) (d : Diagram) :
    m.DrawnOn d (m.factTypesInDiagram d) where
  mem_iff := by
    intro f
    unfold factTypesInDiagram
    simp only [List.mem_eraseDups, List.mem_filterMap, h.factTypeById_eq_some_iff]
    constructor
    · rintro ⟨id, hid, hf, rfl⟩
      exact ⟨hf, hid⟩
    · rintro ⟨hf, hid⟩
      exact ⟨f.id, hid, hf, rfl⟩
  inOrder := pairwise_idxOf_eraseDups (fun _ _ hf => (factTypeById_eq_some hf).2.2) d.factTypeRefs

theorem DrawnOn.nodup {drawn : List FactType} (h : m.DrawnOn d drawn) :
    (drawn.map FactType.id).Nodup := by
  refine List.pairwise_map.mpr (h.inOrder.imp fun hlt hid => ?_)
  rw [hid] at hlt
  exact Nat.lt_irrefl _ hlt

/-! ## The identifying fact type -/

theorem identifyingFactType_eq_some_iff (h : m.FactTypesIdentified) :
    m.identifyingFactType e = some f ↔ m.Realises f e := by
  constructor
  · intro hfound
    unfold identifyingFactType at hfound
    split at hfound
    · next role hroles =>
      obtain ⟨u, hu, hspan⟩ := Option.map_eq_some_iff.mp hroles
      obtain ⟨hf, hrole⟩ := h.factTypeWithRole_eq_some_iff.mp hfound
      exact ⟨hf, u, role, hu, hspan, hrole⟩
    · cases hfound
  · rintro ⟨hf, u, role, hu, hspan, hrole⟩
    simp only [identifyingFactType, hu, Option.map_some, hspan]
    exact h.factTypeWithRole_eq_some_iff.mpr ⟨hf, hrole⟩

theorem identifyingFactType_eq_none_iff (h : m.FactTypesIdentified) :
    m.identifyingFactType e = none ↔ ∀ f, ¬ m.Realises f e := by
  simp only [← identifyingFactType_eq_some_iff h, Option.eq_none_iff_forall_ne_some, ne_eq]

/-! ## The fact types of a schema -/

theorem result_factTypesFor (m : Model) (e : ObjectType) (d : Diagram) :
    (m.factTypesFor e d).result =
      .ok (m.factTypesInDiagram d ++ m.addedTo (m.factTypesInDiagram d) e) := by
  unfold factTypesFor addedTo
  by_cases he : e.referenceMode = ""
  · simp [he]
  · rw [if_neg he, if_neg he]
    cases m.identifyingFactType e with
    | none => simp [Reporting.find, Reporting.report]
    | some f => by_cases hf : f ∈ m.factTypesInDiagram d <;> simp [hf]

theorem diagnostics_factTypesFor (m : Model) (e : ObjectType) (d : Diagram) :
    (m.factTypesFor e d).diagnostics = (m.unrealised? e).toList := by
  unfold factTypesFor unrealised?
  by_cases he : e.referenceMode = ""
  · simp [he, Reporting.diagnostics, diagnosticsOf]
  · rw [if_neg he]
    cases m.identifyingFactType e <;> simp [he] <;> rfl

theorem mem_addedTo_iff (h : m.FactTypesIdentified) {drawn : List FactType} :
    f ∈ m.addedTo drawn e ↔ e.referenceMode ≠ "" ∧ m.Realises f e ∧ f ∉ drawn := by
  unfold addedTo
  by_cases he : e.referenceMode = ""
  · simp [he]
  · simp [he, identifyingFactType_eq_some_iff h]

/-- At most one fact type is added. -/
theorem addedTo_of_mem {drawn : List FactType} (hf : f ∈ m.addedTo drawn e) :
    m.addedTo drawn e = [f] := by
  unfold addedTo at hf ⊢
  split at hf
  · cases hf
  · next he =>
    obtain ⟨hfound, hnew⟩ := List.mem_filter.mp hf
    rw [if_neg he, Option.mem_toList.mp hfound, Option.toList_some]
    exact List.filter_eq_self.mpr fun g hg => List.mem_singleton.mp hg ▸ hnew

theorem nodup_append_addedTo (h : m.FactTypesIdentified) {drawn : List FactType}
    (hdrawn : m.DrawnOn d drawn) : ((drawn ++ m.addedTo drawn e).map FactType.id).Nodup := by
  have hadded : ((m.addedTo drawn e).map FactType.id).Nodup := by
    cases hg : m.addedTo drawn e with
    | nil => exact .nil
    | cons g rest =>
      rw [← hg, addedTo_of_mem (hg ▸ List.mem_cons_self ..)]
      exact List.nodup_singleton g.id
  rw [List.map_append, List.nodup_append]
  refine ⟨hdrawn.nodup, hadded, ?_⟩
  rintro id hid _ hid' rfl
  obtain ⟨f, hf, rfl⟩ := List.mem_map.mp hid
  obtain ⟨g, hg, hsame⟩ := List.mem_map.mp hid'
  obtain ⟨-, hreal, hnew⟩ := (mem_addedTo_iff h).mp hg
  rw [h.eq_of_id_eq hreal.1 ((hdrawn.mem_iff f).mp hf).1 hsame] at hnew
  exact hnew hf

/-- **The fact types of a schema.** Where fact types and roles have ids of their own, the fact types
of a schema are those that the diagram refers to, in the order of the first references, and then the
one that realises the identifier of the concept, if the concept has a reference mode and the fact
type is not drawn; a concept with a reference mode that no fact type realises is found once. -/
theorem factTypesFor_selects (h : m.FactTypesIdentified) (e : ObjectType) (d : Diagram) :
    ∃ drawn added, m.Selects e d drawn added := by
  have hdrawn := drawnOn_factTypesInDiagram h d
  have hnone := identifyingFactType_eq_none_iff h (e := e)
  refine ⟨m.factTypesInDiagram d, m.addedTo (m.factTypesInDiagram d) e, ?_⟩
  exact
    { drawnOn := hdrawn
      added_iff := fun f => mem_addedTo_iff h
      single := fun f hf => addedTo_of_mem hf
      once := nodup_append_addedTo h hdrawn
      result := result_factTypesFor m e d
      missing := by
        intro he hunrealised
        rw [diagnostics_factTypesFor, unrealised?, hnone.mpr hunrealised]
        simp [he]
      silent := by
        intro h'
        rw [diagnostics_factTypesFor, unrealised?, if_pos, Option.toList_none]
        refine h'.imp_right fun ⟨f, hf⟩ => ?_
        rw [(identifyingFactType_eq_some_iff h).mpr hf, Option.isSome_some] }

end Model

/-! ## Concerts -/

namespace Concerts

/-- Concerts are numbered. -/
def concert : ObjectType :=
  { id := some "concert", name := "Concert", kind := .entity, referenceMode := "Nr",
    preferredIdentifier := some "one concert" }

def plays : FactType where
  id := some "plays"
  name := "BandPlaysAtConcert"
  roles := [{ id := some "band", factTypeId := some "plays" },
    { id := some "gig", factTypeId := some "plays", playerId := some "concert" }]

def held : FactType where
  id := some "held"
  name := "ConcertIsHeldInHall"
  roles := [{ id := some "event", factTypeId := some "held", playerId := some "concert" },
    { id := some "hall", factTypeId := some "held" }]

def numbered : FactType where
  id := some "numbered"
  name := "ConcertHasConcertNr"
  roles := [{ id := some "what", factTypeId := some "numbered", playerId := some "concert" },
    { id := some "number", factTypeId := some "numbered" }]

def model : Model where
  objects := [concert]
  factTypes := [plays, numbered, held]
  uniquenessConstraints := [{ id := some "one concert", roleIds := [some "number"] }]

/-- A diagram with two shapes for halls, and one for what the model does not have. -/
def diagram : Diagram where
  id := some "diagram"
  name := "Concert:concept"
  subjectRefs := [some "concert"]
  factTypeRefs := [some "held", some "cancelled", some "plays", some "held"]

/-- Halls come first, in one section, and the numbers of concerts are added at the end. -/
theorem factTypesFor_selects_concert : model.FactTypesIdentified ∧
    (∃ drawn added, model.Selects concert diagram drawn added) ∧
    (model.factTypesFor concert diagram).result = .ok [held, plays, numbered] := by
  have h : model.FactTypesIdentified := ⟨by decide, by decide, by decide⟩
  exact ⟨h, Model.factTypesFor_selects h concert diagram, rfl⟩

end Concerts

end RoleSchema
