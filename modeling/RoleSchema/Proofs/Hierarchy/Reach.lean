import RoleSchema.Hierarchy
import RoleSchema.Proofs.Model.Lookup
import RoleSchema.Proofs.Result
import Mathlib.Data.List.Nodup
import Mathlib.Logic.Relation

/-!
# What a walk reaches

`Model.Reaches m e e'` says that subtype facts lead down from `e` to `e'` in any number of steps. A
walk goes over concepts still to be visited; in the middle of it what has been visited is not closed
under subtypes, but every subtype of a concept that has been reached is visited or still to be
visited, and at the end nothing is left.

* `reach_append`: a walk from several concepts is a walk from each after the other.
* `mem_reach_iff`: a walk that starts afresh reaches exactly what the concepts reach.
* `exists_of_mem_walk`: what the clauses of a walk are.
-/

namespace RoleSchema

open RoleSchema.Rel (Clause)

namespace Model

variable (m : Model)

/-- Subtype facts lead down from one entity type to another, in any number of steps. -/
def Reaches : ObjectType → ObjectType → Prop := Relation.ReflTransGen fun e e' => e' ∈ m.subTypes e

/-- An entity type that is found by its own id. -/
def IsOwnEntity (e : ObjectType) : Prop := m.entityById e.id = some e

variable {m} {e s t : ObjectType} {visited : List Id} {todo : List ObjectType}

/-! ## Entity types under their ids -/

theorem isOwnEntity_of_entityById {id : Id} (h : m.entityById id = some e) : m.IsOwnEntity e := by
  unfold IsOwnEntity
  rw [id_of_entityById h, h]

theorem IsOwnEntity.eq_of_id_eq (he : m.IsOwnEntity e) (hs : m.IsOwnEntity s)
    (hid : e.id = s.id) : e = s := by
  unfold IsOwnEntity at he hs
  rw [hid, hs] at he
  exact (Option.some.inj he).symm

theorem mem_subTypes_iff :
    s ∈ m.subTypes e ↔ ∃ f ∈ m.subtypeFacts, f.supertypeId = e.id ∧
      m.entityById f.subtypeId = some s := by
  simp only [subTypes, List.mem_filterMap, beq_iff_eq, Option.ite_none_right_eq_some]

theorem isOwnEntity_of_mem_subTypes (h : s ∈ m.subTypes e) : m.IsOwnEntity s := by
  obtain ⟨f, -, -, hs⟩ := mem_subTypes_iff.mp h
  exact isOwnEntity_of_entityById hs

theorem Reaches.isOwnEntity (h : m.Reaches t e) (ht : m.IsOwnEntity t) : m.IsOwnEntity e := by
  cases h with
  | refl => exact ht
  | tail _ hs => exact isOwnEntity_of_mem_subTypes hs

/-! ## The order of a walk -/

@[simp] theorem reach_nil : m.reach visited [] = ([], visited) := by
  rw [reach]

theorem reach_cons_of_mem (h : e.id ∈ visited) :
    m.reach visited (e :: todo) = m.reach visited todo := by
  rw [reach, dif_pos (by simpa using h)]

theorem reach_cons_of_notMem (h : e.id ∉ visited) :
    m.reach visited (e :: todo) =
      (e :: (m.reach (e.id :: visited) (m.subTypes e ++ todo)).1,
        (m.reach (e.id :: visited) (m.subTypes e ++ todo)).2) := by
  rw [reach, dif_neg (by simpa using h)]

/-- The induction that follows a walk: over the concepts still to be visited, the next of which has
been visited or has not. -/
theorem reach_induction {P : List Id → List ObjectType → Prop} (nil : ∀ visited, P visited [])
    (seen : ∀ visited e todo, e.id ∈ visited → P visited todo → P visited (e :: todo))
    (fresh : ∀ visited e todo, e.id ∉ visited →
      P (e.id :: visited) (m.subTypes e ++ todo) → P visited (e :: todo))
    (visited : List Id) (todo : List ObjectType) : P visited todo := by
  induction visited, todo using reach.induct m with
  | case1 visited => exact nil visited
  | case2 visited e todo h ih => exact seen visited e todo (by simpa using h) ih
  | case3 visited e todo h _ _ _ ih => exact fresh visited e todo (by simpa using h) ih

/-- A walk from several concepts is a walk from the first ones and then from the others. -/
theorem reach_append (visited : List Id) (todo later : List ObjectType) :
    m.reach visited (todo ++ later) =
      ((m.reach visited todo).1 ++ (m.reach (m.reach visited todo).2 later).1,
        (m.reach (m.reach visited todo).2 later).2) := by
  induction visited, todo using m.reach_induction with
  | nil visited => simp
  | seen visited e todo he ih => rw [List.cons_append, reach_cons_of_mem he, reach_cons_of_mem he, ih]
  | fresh visited e todo he ih =>
    rw [List.cons_append, reach_cons_of_notMem he, reach_cons_of_notMem he, ← List.append_assoc, ih,
      List.cons_append]

/-! ## What has been visited -/

/-- A walk visits what it reaches, besides what had been visited. -/
theorem visited_reach (visited : List Id) (todo : List ObjectType) :
    (m.reach visited todo).2 = ((m.reach visited todo).1.map ObjectType.id).reverse ++ visited := by
  induction visited, todo using m.reach_induction with
  | nil visited => simp
  | seen visited e todo he ih => rw [reach_cons_of_mem he, ih]
  | fresh visited e todo he ih =>
    rw [reach_cons_of_notMem he]
    simp only [ih, List.map_cons, List.reverse_cons, List.append_assoc, List.singleton_append]

theorem mem_visited_reach {id : Id} :
    id ∈ (m.reach visited todo).2 ↔
      (∃ e ∈ (m.reach visited todo).1, e.id = id) ∨ id ∈ visited := by
  rw [visited_reach]
  simp

/-- Nothing is reached twice, or after it has been visited. -/
theorem nodup_reach (visited : List Id) (todo : List ObjectType) :
    ((m.reach visited todo).1.map ObjectType.id).Nodup ∧
      ∀ e ∈ (m.reach visited todo).1, e.id ∉ visited := by
  induction visited, todo using m.reach_induction with
  | nil visited => simp
  | seen visited e todo he ih =>
    rw [reach_cons_of_mem he]
    exact ih
  | fresh visited e todo he ih =>
    obtain ⟨hnodup, hnew⟩ := ih
    rw [reach_cons_of_notMem he]
    constructor
    · rw [List.map_cons, List.nodup_cons]
      refine ⟨?_, hnodup⟩
      rintro h
      obtain ⟨e', he', hid⟩ := List.mem_map.mp h
      exact hnew e' he' (by simp [hid])
    · intro e' he'
      rcases List.mem_cons.mp he' with rfl | he'
      · exact he
      · exact fun h => hnew e' he' (List.mem_cons_of_mem _ h)

/-- Whatever is still to be visited has been visited at the end. -/
theorem id_mem_visited_of_mem_todo (visited : List Id) (todo : List ObjectType) :
    ∀ t ∈ todo, t.id ∈ (m.reach visited todo).2 := by
  induction visited, todo using m.reach_induction with
  | nil visited => simp
  | seen visited e todo he ih =>
    rw [reach_cons_of_mem he]
    intro t ht
    rcases List.mem_cons.mp ht with rfl | ht
    · exact mem_visited_reach.mpr (Or.inr he)
    · exact ih t ht
  | fresh visited e todo he ih =>
    rw [reach_cons_of_notMem he]
    intro t ht
    rcases List.mem_cons.mp ht with rfl | ht
    · exact mem_visited_reach.mpr (Or.inr (List.mem_cons_self ..))
    · exact ih t (List.mem_append_right _ ht)

/-- The subtypes of what is reached have been visited at the end. -/
theorem id_mem_visited_of_mem_subTypes (visited : List Id) (todo : List ObjectType) :
    ∀ e ∈ (m.reach visited todo).1, ∀ s ∈ m.subTypes e, s.id ∈ (m.reach visited todo).2 := by
  induction visited, todo using m.reach_induction with
  | nil visited => simp
  | seen visited e todo he ih =>
    rw [reach_cons_of_mem he]
    exact ih
  | fresh visited e todo he ih =>
    rw [reach_cons_of_notMem he]
    intro e' he' s hs
    rcases List.mem_cons.mp he' with rfl | he'
    · exact id_mem_visited_of_mem_todo _ _ s (List.mem_append_left _ hs)
    · exact ih e' he' s hs

/-! ## What is reached -/

/-- A walk reaches only what the concepts still to be visited reach. -/
theorem exists_reaches_of_mem_reach (visited : List Id) (todo : List ObjectType) :
    ∀ e ∈ (m.reach visited todo).1, ∃ t ∈ todo, m.Reaches t e := by
  induction visited, todo using m.reach_induction with
  | nil visited => simp
  | seen visited e todo he ih =>
    rw [reach_cons_of_mem he]
    intro e' he'
    obtain ⟨t, ht, hr⟩ := ih e' he'
    exact ⟨t, List.mem_cons_of_mem _ ht, hr⟩
  | fresh visited e todo he ih =>
    rw [reach_cons_of_notMem he]
    intro e' he'
    rcases List.mem_cons.mp he' with rfl | he'
    · exact ⟨e', List.mem_cons_self .., .refl⟩
    · obtain ⟨t, ht, hr⟩ := ih e' he'
      rcases List.mem_append.mp ht with ht | ht
      · exact ⟨e, List.mem_cons_self .., .head ht hr⟩
      · exact ⟨t, List.mem_cons_of_mem _ ht, hr⟩

/-- What a walk that starts afresh has visited it has reached, under its own id. -/
theorem mem_reach_of_id_mem (h : ∀ t ∈ todo, m.IsOwnEntity t) (he : m.IsOwnEntity e)
    (hid : e.id ∈ (m.reach [] todo).2) : e ∈ (m.reach [] todo).1 := by
  rcases mem_visited_reach.mp hid with ⟨e', he', hid'⟩ | hid
  · obtain ⟨t, ht, hr⟩ := exists_reaches_of_mem_reach _ _ e' he'
    have hown := hr.isOwnEntity (h t ht)
    rwa [← hown.eq_of_id_eq he hid']
  · cases hid

/-- **What a walk reaches.** A walk that starts afresh from entity types of the model reaches
exactly what they reach along subtype facts. -/
theorem mem_reach_iff (h : ∀ t ∈ todo, m.IsOwnEntity t) :
    e ∈ (m.reach [] todo).1 ↔ ∃ t ∈ todo, m.Reaches t e := by
  constructor
  · exact exists_reaches_of_mem_reach _ _ e
  · rintro ⟨t, ht, hr⟩
    -- the induction is on the path: what is reached stays closed under subtypes
    induction hr with
    | refl => exact mem_reach_of_id_mem h (h t ht) (id_mem_visited_of_mem_todo _ _ t ht)
    | tail _ hs ih =>
      exact mem_reach_of_id_mem h (isOwnEntity_of_mem_subTypes hs)
        (id_mem_visited_of_mem_subTypes _ _ _ ih _ hs)

/-- What a walk that starts afresh reaches does not depend on the order of the concepts. -/
theorem perm_reach {order : List ObjectType} (h : ∀ t ∈ todo, m.IsOwnEntity t)
    (hp : order.Perm todo) : (m.reach [] order).1.Perm (m.reach [] todo).1 := by
  have horder : ∀ t ∈ order, m.IsOwnEntity t := fun t ht => h t (hp.mem_iff.mp ht)
  have hnodup (es : List ObjectType) : (m.reach [] es).1.Nodup :=
    List.Nodup.of_map ObjectType.id (nodup_reach [] es).1
  refine (List.perm_ext_iff_of_nodup (hnodup _) (hnodup _)).mpr fun e => ?_
  rw [mem_reach_iff horder, mem_reach_iff h]
  simp only [hp.mem_iff]

/-! ## What a walk gives -/

/-- What an entity type contributes: where it is drawn, at least one clause, or the warning that a
name is not valid; elsewhere nothing. -/
def SharesOf (m : Model) (d : Diagram) (e : ObjectType) : Prop :=
  if d.draws e.id then
    (∃ c cs, m.placementClauses e = .ok (c :: cs) ∧ m.placement d e = (c :: cs, [])) ∨
      ∃ fault, m.placementClauses e = .error fault ∧
        m.placement d e = ([], [.invalidName fault e.id])
  else m.placement d e = ([], [])

theorem placementClauses_ne_nil (e : ObjectType) : m.placementClauses e ≠ .ok [] := by
  intro h
  unfold placementClauses at h
  split at h
  · obtain ⟨c, -, hc⟩ := map_eq_ok_iff.mp h
    cases hc
  · next hsupers =>
    cases hs : m.superTypes e with
    | nil => exact hsupers hs
    | cons super supers =>
      rw [hs, List.mapM_cons] at h
      obtain ⟨c, -, h⟩ := bind_eq_ok_iff.mp h
      obtain ⟨cs, -, h⟩ := bind_eq_ok_iff.mp h
      cases h

theorem sharesOf (d : Diagram) (e : ObjectType) : m.SharesOf d e := by
  unfold SharesOf
  split
  · next hd =>
    cases hc : m.placementClauses e with
    | error fault => exact Or.inr ⟨fault, rfl, by simp only [placement, hd, hc, if_true]⟩
    | ok clauses =>
      cases clauses with
      | nil => exact absurd hc (placementClauses_ne_nil e)
      | cons c cs => exact Or.inl ⟨c, cs, rfl, by simp only [placement, hd, hc, if_true]⟩
  · next hd => simp only [placement, hd, if_false, Bool.false_eq_true]

end Model

/-- A walk gives what certain entity types contribute, in their order. -/
def Walk.ComesOf (w : Walk) (m : Model) (d : Diagram) (part : List ObjectType) : Prop :=
  w.clauses = part.flatMap (fun e => (m.placement d e).1) ∧
    w.findings = part.flatMap fun e => (m.placement d e).2

namespace Model

variable {m : Model}

theorem walk_comesOf (d : Diagram) (visited : List Id) (e : ObjectType) :
    (m.walk d visited e).ComesOf m d (m.reach visited [e]).1 := by
  constructor
  · simp only [walk, List.flatMap_map]
  · simp only [walk, List.flatMap_map]

theorem visited_walk (d : Diagram) (visited : List Id) (e : ObjectType) :
    (m.walk d visited e).visited = (m.reach visited [e]).2 := rfl

/-! ## The clauses of a walk -/

variable {d : Diagram} {e : ObjectType} {c : Clause}

theorem exists_of_topLevelClause (h : topLevelClause e = .ok c) :
    ∃ name, c = containmentClause name e.name "Entity" := by
  obtain ⟨name, -, hc⟩ := bind_eq_ok_iff.mp h
  cases hc
  exact ⟨_, rfl⟩

theorem exists_of_subtypeClause {super : ObjectType} (h : subtypeClause e super = .ok c) :
    ∃ name, c = containmentClause name e.name super.name := by
  obtain ⟨sub, -, h⟩ := bind_eq_ok_iff.mp h
  obtain ⟨sup, -, hc⟩ := bind_eq_ok_iff.mp h
  cases hc
  exact ⟨_, rfl⟩

theorem exists_of_mem_placementClauses {clauses : List Clause}
    (h : m.placementClauses e = .ok clauses) (hc : c ∈ clauses) :
    ∃ name sub super, c = containmentClause name sub super := by
  unfold placementClauses at h
  split at h
  · obtain ⟨top, htop, rfl⟩ := map_eq_ok_iff.mp h
    obtain rfl := List.mem_singleton.mp hc
    obtain ⟨name, hname⟩ := exists_of_topLevelClause htop
    exact ⟨name, _, _, hname⟩
  · obtain ⟨super, -, hsuper⟩ := exists_of_mem_of_mapM h c hc
    obtain ⟨name, hname⟩ := exists_of_subtypeClause hsuper
    exact ⟨name, _, _, hname⟩

theorem exists_of_mem_placement (h : c ∈ (m.placement d e).1) :
    ∃ name sub super, c = containmentClause name sub super := by
  unfold placement at h
  split at h
  · split at h
    · next clauses hclauses => exact exists_of_mem_placementClauses hclauses h
    · cases h
  · cases h

/-- Every clause of a walk says that one type is contained in another. -/
theorem exists_of_mem_walk {visited : List Id} (h : c ∈ (m.walk d visited e).clauses) :
    ∃ name sub super, c = containmentClause name sub super := by
  rw [(walk_comesOf d visited e).1] at h
  obtain ⟨reached, -, hc⟩ := List.mem_flatMap.mp h
  exact exists_of_mem_placement hc

end Model

end RoleSchema
