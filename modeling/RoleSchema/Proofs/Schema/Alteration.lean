import RoleSchema.Proofs.Hierarchy.Reach
import RoleSchema.Proofs.Relation.Alteration
import RoleSchema.Proofs.Schema.Extension

/-!
# Schemas of an altered model

A walk down from an altered concept visits the altered subtypes, in the same order, and places them
as before. An altered fact type has the section that it had, and whether it is among those of a
diagram does not depend on its position or on how players are noted, as long as no two fact types
become one. So all of a run stays: schemas, findings and log.

* `Alteration.Keeps`: what has to stay as it was.
* `reach_altered`: what a walk visits.
* `factTypesFor_altered`: the fact types of a schema.
* `schemas_altered`: the run over all diagrams.
* `schemas_moved`: the run over a model whose elements have other positions.
-/

namespace RoleSchema

/-- The players of all roles that can become columns are as they were, and different fact types stay
different. -/
structure Alteration.Keeps (a : Alteration) (m : Model) : Prop where
  players : ∀ f ∈ m.factTypes, a.KeepsPlayers m f
  distinct : ∀ f ∈ m.factTypes, ∀ g ∈ m.factTypes, f.altered a = g.altered a → f = g

/-- New positions change no players, and make no two fact types one. -/
theorem Renumbering.keeps (r : Renumbering) (m : Model) : r.alteration.Keeps m where
  players _ _ role _ := Model.playerId_moved r role
  distinct f _ g _ h := by
    rw [FactType.altered_alteration, FactType.altered_alteration] at h
    exact FactType.moved_injective r.facts h

namespace Model

variable {m : Model} {a : Alteration} {d : Diagram} {e : ObjectType} {template : String}

/-! ## Placing a concept -/

theorem placement_altered : (m.altered a).placement d (e.altered a) = m.placement d e := by
  have hclauses : (m.altered a).placementClauses (e.altered a) = m.placementClauses e := by
    unfold placementClauses
    rw [superTypes_altered]
    cases m.superTypes e with
    | nil => rfl
    | cons super supers =>
      simp only [List.map_cons]
      rw [← List.map_cons, List.mapM_map]
      rfl
  unfold placement
  rw [hclauses]
  rfl

/-- A walk visits the moved concepts in the order in which it visited the concepts. -/
theorem reach_altered (visited : List Id) (todo : List ObjectType) :
    (m.altered a).reach visited (todo.map (ObjectType.altered a)) =
      ((m.reach visited todo).1.map (ObjectType.altered a), (m.reach visited todo).2) := by
  induction visited, todo using m.reach_induction with
  | nil visited => simp
  | seen visited e todo he ih =>
    have he' : (e.altered a).id ∈ visited := he
    rw [List.map_cons, reach_cons_of_mem he', reach_cons_of_mem he, ih]
  | fresh visited e todo he ih =>
    have he' : (e.altered a).id ∉ visited := he
    rw [List.map_append, ← subTypes_altered] at ih
    rw [List.map_cons, reach_cons_of_notMem he', reach_cons_of_notMem he, List.map_cons]
    exact congrArg (fun x => (e.altered a :: x.1, x.2)) ih

theorem entityTypeClauses_altered :
    (m.altered a).entityTypeClauses d (e.altered a) = m.entityTypeClauses d e := by
  have hreach : (m.altered a).reach [] [e.altered a] =
      ((m.reach [] [e]).1.map (ObjectType.altered a), (m.reach [] [e]).2) :=
    reach_altered [] [e]
  have hplaced : ((m.reach [] [e]).1.map (ObjectType.altered a)).map
      ((m.altered a).placement d) = (m.reach [] [e]).1.map (m.placement d) := by
    rw [List.map_map]
    exact List.map_congr_left fun _ _ => placement_altered
  unfold entityTypeClauses walk
  rw [hreach]
  simp only [hplaced]

/-! ## Sections of fact types -/

theorem factTypeSection_altered {f : FactType} (h : a.KeepsPlayers m f) :
    (m.altered a).factTypeSection (f.altered a) = m.factTypeSection f := by
  unfold factTypeSection factTypeLines
  rw [factTypeClauses_altered h]
  rfl

theorem factTypeSections_altered {fs : List FactType} (h : ∀ f ∈ fs, a.KeepsPlayers m f) :
    (m.altered a).factTypeSections (fs.map (FactType.altered a)) = m.factTypeSections fs := by
  induction fs with
  | nil => rfl
  | cons f rest ih =>
    have hrest := ih fun g hg => h g (List.mem_cons_of_mem _ hg)
    rw [List.map_cons]
    unfold factTypeSections
    rw [factTypeSection_altered (h f (List.mem_cons_self ..)), hrest]

section

variable (h : a.Keeps m)
include h

/-- The fact types of a schema are the altered ones. -/
theorem factTypesFor_altered : (m.altered a).factTypesFor (e.altered a) d =
    (m.factTypesFor e d).map (List.map (FactType.altered a)) := by
  unfold factTypesFor
  rw [factTypesInDiagram_altered h.distinct, identifyingFactType_altered]
  by_cases hmode : e.referenceMode = ""
  · have hmode' : (e.altered a).referenceMode = "" := hmode
    rw [if_pos hmode', if_pos hmode]
    rfl
  · have hmode' : ¬ (e.altered a).referenceMode = "" := hmode
    rw [if_neg hmode', if_neg hmode]
    cases hidentifying : m.identifyingFactType e with
    | none => rfl
    | some f =>
      have hf : f ∈ m.factTypes := mem_factTypes_of_identifyingFactType hidentifying
      have hdrawn : ((m.factTypesInDiagram d).map (FactType.altered a)).contains (f.altered a) =
          (m.factTypesInDiagram d).contains f := by
        rw [Bool.eq_iff_iff, List.contains_iff_mem, List.contains_iff_mem]
        refine ⟨fun hmem => ?_, List.mem_map_of_mem⟩
        obtain ⟨g, hg, hgf⟩ := List.mem_map.mp hmem
        exact h.distinct g (mem_factTypes_of_factTypesInDiagram hg) f hf hgf ▸ hg
      simp only [Option.map_some, hdrawn]
      split
      · rfl
      · simp only [← List.map_singleton, ← List.map_append]
        rfl

/-! ## Schemas -/

theorem schemaOf_altered :
    (m.altered a).schemaOf template (e.altered a) d = m.schemaOf template e d := by
  unfold schemaOf conceptSection
  rw [entityTypeClauses_altered, factTypesFor_altered h]
  simp only [Reporting.map_bind]
  refine Reporting.bind_congr fun _ _ => Reporting.bind_congr fun _ _ =>
    Reporting.bind_congr fun fs hfs => ?_
  rw [factTypeSections_altered fun f hf => h.players f (mem_factTypes_of_factTypesFor hfs f hf)]
  rfl

theorem schemaFor_altered (d : Diagram) :
    (m.altered a).schemaFor template d = m.schemaFor template d := by
  unfold schemaFor
  rw [resolveConcept_altered]
  split
  · rfl
  · cases m.resolveConcept d with
    | error fault => rfl
    | ok e => exact congrArg (Reporting.map some) (schemaOf_altered h)

theorem schemasOf_altered (producers : List (String × String)) (ds : List Diagram) :
    (m.altered a).schemasOf template producers ds = m.schemasOf template producers ds := by
  induction ds generalizing producers with
  | nil => rfl
  | cons d rest ih =>
    unfold schemasOf
    simp only [schemaFor_altered h, ih]

/-- **A run over an altered model** is the run over the model. -/
theorem schemas_altered (template : String) :
    (m.altered a).schemas template = m.schemas template :=
  schemasOf_altered h [] m.diagrams

end

/-- A run over a model with other positions is the run over the model. -/
theorem schemas_moved (r : Renumbering) (m : Model) (template : String) :
    (m.moved r).schemas template = m.schemas template := by
  rw [← altered_alteration, schemas_altered (r.keeps m)]

end Model

end RoleSchema
