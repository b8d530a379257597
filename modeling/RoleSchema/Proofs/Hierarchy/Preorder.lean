import RoleSchema.Proofs.Hierarchy.Reach
import Mathlib.Data.List.Forall2

/-!
# The contents of a walk

A walk goes through the subtypes of a concept in depth: each entity type comes before what is found
under it, and is entered once. `Model.DepthFirst` says this without the list of what is still to be
visited, and `Model.Contributes` says what an entity type adds on the way: its clauses, or one
warning in their place. Whoever is reached along a subtype fact has a supertype, so that only the
concept itself can be said to be an entity.

* `depthFirst_iff`: a walk searches in depth, and there is one such search only.
* `contributes_placement`: what an entity type adds to a walk.
* `walk_contents`: the contents of a walk from a concept.
-/

namespace RoleSchema

open RoleSchema.Rel (Clause)

/-! ## The order -/

/-- A search in depth, from entity types still to be visited. `before` are the ids visited before it
and `after` those visited after it; `order` are the entity types that it enters. -/
inductive Model.DepthFirst (m : Model) :
    (before : List Id) → (todo order : List ObjectType) → (after : List Id) → Prop
  | done (visited : List Id) : DepthFirst m visited [] [] visited
  /-- An entity type that has been visited is passed over. -/
  | seen {before after : List Id} {e : ObjectType} {todo order : List ObjectType}
      (h : e.id ∈ before) (rest : DepthFirst m before todo order after) :
      DepthFirst m before (e :: todo) order after
  /-- Any other is followed by what is found under it, and then by the rest. -/
  | fresh {before between after : List Id} {e : ObjectType} {todo under order : List ObjectType}
      (h : e.id ∉ before) (below : DepthFirst m (e.id :: before) (m.subTypes e) under between)
      (rest : DepthFirst m between todo order after) :
      DepthFirst m before (e :: todo) (e :: (under ++ order)) after

/-! ## The share of an entity type -/

/-- The subtype facts that place an entity type below entity types of the model. -/
def Model.factsAbove (m : Model) (e : ObjectType) : List SubtypeFact :=
  m.subtypeFacts.filter fun s => s.subtypeId == e.id && (m.entityById s.supertypeId).isSome

/-- The names that the clauses of an entity type need: its own and those of its supertypes. -/
def Model.namesToPlace (m : Model) (e : ObjectType) : List String :=
  e.name :: (m.superTypes e).map ObjectType.name

/-- Whether a name of a model gives no name of the schema. -/
def isRejected (name : String) : Bool := (snakeCase name).toOption.isNone

/-- The clause that an entity type, called `sub` in the schema, is below the supertype of a fact. -/
def Model.IsClauseOf (m : Model) (e : ObjectType) (sub : String) (s : SubtypeFact) (c : Clause) :
    Prop :=
  ∃ super sup, m.entityById s.supertypeId = some super ∧ snakeCase super.name = .ok sup ∧
    c = containmentClause (sub ++ "_is_subtype_of_" ++ sup) e.name super.name

/-- What an entity type adds to a walk for a diagram. -/
inductive Model.Contributes (m : Model) (d : Diagram) (e : ObjectType) :
    List Clause → List Diagnostic → Prop
  | undrawn (hd : e.id ∉ d.subjectRefs) : Contributes m d e [] []
  /-- Without supertypes it is an entity. -/
  | top {name : String} (hd : e.id ∈ d.subjectRefs) (habove : m.factsAbove e = [])
      (hname : snakeCase e.name = .ok name) :
      Contributes m d e [containmentClause (name ++ "_is_entity") e.name "Entity"] []
  /-- Otherwise it has one clause for each subtype fact, in the order of the document. -/
  | below {name : String} {clauses : List Clause} (hd : e.id ∈ d.subjectRefs)
      (habove : m.factsAbove e ≠ []) (hname : snakeCase e.name = .ok name)
      (hclauses : List.Forall₂ (m.IsClauseOf e name) (m.factsAbove e) clauses) :
      Contributes m d e clauses []
  /-- If a name is rejected, there is no clause but one warning, about the first such name. -/
  | misnamed {name : String} (hd : e.id ∈ d.subjectRefs)
      (hname : (m.namesToPlace e).find? isRejected = some name) :
      Contributes m d e [] [.invalidName (.notCapitalised name) e.id]

/-- A clause that something is an entity. -/
def Rel.Clause.IsEntityClause (c : Clause) : Prop :=
  ∃ name sub, c = containmentClause (name ++ "_is_entity") sub "Entity"

/-- What a walk from `c` gives if `order` are the entity types on its way. -/
structure Model.WalkGives (m : Model) (d : Diagram) (c : ObjectType) (order : List ObjectType) :
    Prop where
  /-- The order is that of a search in depth. -/
  depthFirst : ∃ after, m.DepthFirst [] [c] order after
  /-- It has what can be reached, each entity type once. -/
  reached : ∀ e, e ∈ order ↔ m.Reaches c e
  once : (order.map ObjectType.id).Nodup
  /-- The walk gives what each of them contributes, one after the other. -/
  shares : ∃ shares, List.Forall₂ (fun e s => m.Contributes d e s.1 s.2) order shares ∧
    (m.walk d [] c).clauses = shares.flatMap Prod.fst ∧
    (m.walk d [] c).findings = shares.flatMap Prod.snd
  /-- Only the first clause can say that something is an entity, and it says so of `c`. -/
  entity : ∀ i clause, (m.walk d [] c).clauses[i]? = some clause → clause.IsEntityClause →
    i = 0 ∧ ∃ name, snakeCase c.name = .ok name ∧
      clause = containmentClause (name ++ "_is_entity") c.name "Entity"

namespace Model

variable {m : Model} {d : Diagram} {e : ObjectType} {before after : List Id}
  {todo order : List ObjectType}

/-! ## A walk searches in depth -/

/-- A search from several entity types is one from the first of them, then one from the others. -/
theorem DepthFirst.of_append {later : List ObjectType}
    (h : m.DepthFirst before (todo ++ later) order after) :
    ∃ first between second, order = first ++ second ∧ m.DepthFirst before todo first between ∧
      m.DepthFirst between later second after := by
  induction todo generalizing before order with
  | nil => exact ⟨[], before, order, rfl, .done before, h⟩
  | cons e todo ih =>
    cases h with
    | seen he hrest =>
      obtain ⟨first, between, second, rfl, hfirst, hsecond⟩ := ih hrest
      exact ⟨first, between, second, rfl, .seen he hfirst, hsecond⟩
    | @fresh _ _ _ _ _ under _ he hbelow hrest =>
      obtain ⟨first, between, second, rfl, hfirst, hsecond⟩ := ih hrest
      refine ⟨e :: (under ++ first), between, second, ?_, .fresh he hbelow hfirst, hsecond⟩
      simp only [List.cons_append, List.append_assoc]

theorem depthFirst_reach (visited : List Id) (todo : List ObjectType) :
    m.DepthFirst visited todo (m.reach visited todo).1 (m.reach visited todo).2 := by
  induction visited, todo using m.reach_induction with
  | nil visited =>
    rw [reach_nil]
    exact .done visited
  | seen visited e todo he ih =>
    rw [reach_cons_of_mem he]
    exact .seen he ih
  | fresh visited e todo he ih =>
    -- the walk has put the subtypes in front of the rest, where the search keeps them apart
    obtain ⟨under, between, rest, horder, hunder, hrest⟩ := ih.of_append
    rw [reach_cons_of_notMem he, horder]
    exact .fresh he hunder hrest

theorem DepthFirst.reach_eq (h : m.DepthFirst before todo order after) :
    m.reach before todo = (order, after) := by
  induction h with
  | done visited => exact reach_nil
  | seen he _ ih => rw [reach_cons_of_mem he, ih]
  | fresh he _ _ ihbelow ihrest => rw [reach_cons_of_notMem he, reach_append, ihbelow, ihrest]

/-- A walk searches in depth, and any search in depth is the walk. -/
theorem depthFirst_iff : m.DepthFirst before todo order after ↔
    m.reach before todo = (order, after) := by
  constructor
  · exact DepthFirst.reach_eq
  · intro h
    have hreach := m.depthFirst_reach before todo
    rwa [h] at hreach

/-! ## Supertypes -/

/-- Entity types that are looked up at one end of certain subtype facts: there is one for each of
these facts that has an entity type of the model at that end. -/
theorem forall₂_linked (test : SubtypeFact → Bool) (ref : SubtypeFact → Id) :
    List.Forall₂ (fun s x => m.entityById (ref s) = some x)
      (m.subtypeFacts.filter fun s => test s && (m.entityById (ref s)).isSome)
      (m.subtypeFacts.filterMap fun s => if test s then m.entityById (ref s) else none) := by
  induction m.subtypeFacts with
  | nil => exact .nil
  | cons s rest ih =>
    cases hs : test s with
    | true =>
      cases hend : m.entityById (ref s) with
      | none => simpa [hs, hend] using ih
      | some x => simpa [hs, hend] using ih
    | false => simpa [hs] using ih

/-- There is one supertype for each subtype fact above an entity type. -/
theorem forall₂_superTypes (e : ObjectType) :
    List.Forall₂ (fun s super => m.entityById s.supertypeId = some super) (m.factsAbove e)
      (m.superTypes e) :=
  forall₂_linked (fun s => s.subtypeId == e.id) SubtypeFact.supertypeId

theorem factsAbove_eq_nil_iff : m.factsAbove e = [] ↔ m.superTypes e = [] := by
  rw [← List.length_eq_zero_iff, (forall₂_superTypes e).length_eq, List.length_eq_zero_iff]

/-- What is reached along a subtype fact has a supertype. -/
theorem factsAbove_ne_nil {s : ObjectType} (he : m.IsOwnEntity e) (hs : s ∈ m.subTypes e) :
    m.factsAbove s ≠ [] := by
  obtain ⟨f, hf, hsuper, hsub⟩ := mem_subTypes_iff.mp hs
  have hid : f.subtypeId = s.id := (id_of_entityById hsub).symm
  have hfound : (m.entityById f.supertypeId).isSome := by rw [hsuper, he, Option.isSome_some]
  have hmem : f ∈ m.factsAbove s := List.mem_filter.mpr ⟨hf, by simp [hid, hfound]⟩
  exact List.ne_nil_of_mem hmem

/-- Of all that a concept reaches only the concept itself may be without supertypes. -/
theorem Reaches.eq_of_factsAbove {c : ObjectType} (h : m.Reaches c e) (hc : m.IsOwnEntity c)
    (habove : m.factsAbove e = []) : e = c := by
  cases h with
  | refl => rfl
  | tail hr hs => exact absurd habove (factsAbove_ne_nil (Reaches.isOwnEntity hr hc) hs)

/-! ## Names -/

theorem eq_of_snakeCase_eq_error {name : String} {fault : NamingFault}
    (h : snakeCase name = .error fault) : fault = .notCapitalised name := by
  unfold snakeCase at h
  split at h
  · cases h
    rfl
  · cases h

theorem isRejected_of_error {name : String} {fault : NamingFault}
    (h : snakeCase name = .error fault) : isRejected name = true := by
  rw [isRejected, h]
  rfl

theorem isRejected_of_ok {name small : String} (h : snakeCase name = .ok small) :
    isRejected name = false := by
  rw [isRejected, h]
  rfl

theorem subtypeClause_eq_ok_iff {super : ObjectType} {c : Clause} :
    subtypeClause e super = .ok c ↔ ∃ sub sup, snakeCase e.name = .ok sub ∧
      snakeCase super.name = .ok sup ∧
      c = containmentClause (sub ++ "_is_subtype_of_" ++ sup) e.name super.name := by
  unfold subtypeClause
  simp only [bind_eq_ok_iff, Except.ok.injEq, eq_comm (a := c)]
  constructor
  · rintro ⟨sub, hsub, sup, hsup, hc⟩
    exact ⟨sub, sup, hsub, hsup, hc⟩
  · rintro ⟨sub, sup, hsub, hsup, hc⟩
    exact ⟨sub, hsub, sup, hsup, hc⟩

/-- The clauses of subtype facts fail on the first of their names that is rejected. -/
theorem mapM_subtypeClause_eq_error {supers : List ObjectType} {fault : NamingFault}
    (h : supers.mapM (subtypeClause e) = .error fault) :
    ∃ name, (e.name :: supers.map ObjectType.name).find? isRejected = some name ∧
      fault = .notCapitalised name := by
  induction supers with
  | nil => cases h
  | cons super supers ih =>
    rw [List.mapM_cons] at h
    cases hsub : snakeCase e.name with
    | error own =>
      have hfirst : subtypeClause e super = .error own := by
        rw [subtypeClause, hsub]
        rfl
      rw [hfirst] at h
      cases h
      exact ⟨e.name, List.find?_cons_of_pos (isRejected_of_error hsub),
        eq_of_snakeCase_eq_error hsub⟩
    | ok sub =>
      have hown := isRejected_of_ok hsub
      cases hsup : snakeCase super.name with
      | error other =>
        have hfirst : subtypeClause e super = .error other := by
          rw [subtypeClause, hsub]
          simp only [hsup]
          rfl
        rw [hfirst] at h
        cases h
        refine ⟨super.name, ?_, eq_of_snakeCase_eq_error hsup⟩
        simp [hown, isRejected_of_error hsup]
      | ok sup =>
        have hfirst := subtypeClause_eq_ok_iff.mpr ⟨sub, sup, hsub, hsup, rfl⟩
        rw [hfirst] at h
        rcases bind_eq_error_iff.mp h with hhead | ⟨c, -, hrest⟩
        · cases hhead
        · rcases bind_eq_error_iff.mp hrest with htail | ⟨cs, -, hpure⟩
          · obtain ⟨name, hname, rfl⟩ := ih htail
            refine ⟨name, ?_, rfl⟩
            simpa [hown, isRejected_of_ok hsup] using hname
          · cases hpure

/-! ## Shares -/

/-- The clauses of the supertypes are those of the subtype facts above. -/
theorem forall₂_isClauseOf {sub : String} (hsub : snakeCase e.name = .ok sub)
    {facts : List SubtypeFact} {supers : List ObjectType} {clauses : List Clause}
    (hfacts : List.Forall₂ (fun s super => m.entityById s.supertypeId = some super) facts supers)
    (hclauses : List.Forall₂ (fun super c => subtypeClause e super = .ok c) supers clauses) :
    List.Forall₂ (m.IsClauseOf e sub) facts clauses := by
  induction hfacts generalizing clauses with
  | nil =>
    cases hclauses
    exact .nil
  | @cons s super facts supers hs _ ih =>
    cases hclauses with
    | cons hc hrest =>
      obtain ⟨sub', sup, hsub', hsup, rfl⟩ := subtypeClause_eq_ok_iff.mp hc
      obtain rfl : sub = sub' := Except.ok.inj (hsub.symm.trans hsub')
      exact .cons ⟨super, sup, hs, hsup, rfl⟩ (ih hrest)

theorem contributes_of_placementClauses (hd : e.id ∈ d.subjectRefs) {clauses : List Clause}
    (h : m.placementClauses e = .ok clauses) : m.Contributes d e clauses [] := by
  have hfacts := m.forall₂_superTypes e
  unfold placementClauses at h
  split at h
  · next hsupers =>
    obtain ⟨c, hc, rfl⟩ := map_eq_ok_iff.mp h
    obtain ⟨name, hname, hc⟩ := bind_eq_ok_iff.mp hc
    cases hc
    exact .top hd (factsAbove_eq_nil_iff.mpr hsupers) hname
  · next hsupers =>
    have habove : m.factsAbove e ≠ [] := fun habove => hsupers (factsAbove_eq_nil_iff.mp habove)
    have hclauses := forall₂_of_mapM h
    cases hs : m.superTypes e with
    | nil => exact absurd hs hsupers
    | cons super supers =>
      obtain ⟨c, hc⟩ : ∃ c, subtypeClause e super = .ok c := by
        rw [hs] at hclauses
        cases hclauses with
        | cons hc _ => exact ⟨_, hc⟩
      obtain ⟨sub, -, hsub, -, -⟩ := subtypeClause_eq_ok_iff.mp hc
      exact .below hd habove hsub (forall₂_isClauseOf hsub hfacts hclauses)

theorem contributes_of_fault (hd : e.id ∈ d.subjectRefs) {fault : NamingFault}
    (h : m.placementClauses e = .error fault) :
    m.Contributes d e [] [.invalidName fault e.id] := by
  obtain ⟨name, hname, rfl⟩ : ∃ name, (m.namesToPlace e).find? isRejected = some name ∧
      fault = .notCapitalised name := by
    unfold placementClauses at h
    split at h
    · rcases bind_eq_error_iff.mp (map_eq_error_iff.mp h) with hname | ⟨name, -, hc⟩
      · exact ⟨e.name, List.find?_cons_of_pos (isRejected_of_error hname),
          eq_of_snakeCase_eq_error hname⟩
      · cases hc
    · exact mapM_subtypeClause_eq_error h
  exact .misnamed hd hname

/-- What an entity type adds to a walk. -/
theorem contributes_placement (d : Diagram) (e : ObjectType) :
    m.Contributes d e (m.placement d e).1 (m.placement d e).2 := by
  unfold placement Diagram.draws
  by_cases hd : e.id ∈ d.subjectRefs
  · rw [if_pos (List.contains_iff_mem.mpr hd)]
    cases h : m.placementClauses e with
    | ok clauses => exact contributes_of_placementClauses hd h
    | error fault => exact contributes_of_fault hd h
  · rw [if_neg fun h => hd (List.contains_iff_mem.mp h)]
    exact .undrawn hd

/-! ## Clauses that something is an entity -/

/-- The clause of a subtype fact says of nothing that it is an entity, whatever the supertype is
called. -/
theorem IsClauseOf.not_isEntityClause {sub : String} {s : SubtypeFact} {c : Clause}
    (h : m.IsClauseOf e sub s c) : ¬ c.IsEntityClause := by
  obtain ⟨super, sup, -, hsup, rfl⟩ := h
  rintro ⟨name, type, heq⟩
  simp only [containmentClause, Clause.constraint.injEq, Rel.Formula.implies.injEq,
    Rel.Formula.atom.injEq, Rel.Relation.type.injEq] at heq
  obtain ⟨hname, -, -, hentity, -⟩ := heq
  -- a supertype called `Entity` is `entity` in names, and the letter before that is not the same
  rw [hentity] at hsup
  obtain rfl : "entity" = sup := Except.ok.inj hsup
  have hletter := congrArg (fun s : String => s.toList.reverse[7]?) hname
  simp at hletter

theorem Contributes.eq_of_isEntityClause {clauses : List Clause} {findings : List Diagnostic}
    {c : Clause} (h : m.Contributes d e clauses findings) (hc : c ∈ clauses)
    (hentity : c.IsEntityClause) :
    m.factsAbove e = [] ∧ clauses = [c] ∧ ∃ name, snakeCase e.name = .ok name ∧
      c = containmentClause (name ++ "_is_entity") e.name "Entity" := by
  cases h with
  | undrawn _ => cases hc
  | top _ habove hname =>
    obtain rfl := List.mem_singleton.mp hc
    exact ⟨habove, rfl, _, hname, rfl⟩
  | below _ _ _ hclauses =>
    obtain ⟨s, -, hs⟩ := exists_of_mem_of_forall₂ hclauses hc
    exact absurd hentity hs.not_isEntityClause
  | misnamed _ _ => cases hc

/-- Among all that a concept reaches, a clause that something is an entity comes of the concept
itself. -/
theorem eq_of_mem_placement {c : ObjectType} (hc : m.IsOwnEntity c)
    (he : e ∈ (m.reach [] [c]).1) {clause : Clause} (hclause : clause ∈ (m.placement d e).1)
    (hentity : clause.IsEntityClause) : e = c := by
  obtain ⟨t, ht, hreaches⟩ := exists_reaches_of_mem_reach [] [c] e he
  obtain rfl := List.mem_singleton.mp ht
  have hshare := contributes_placement (m := m) d e
  exact hreaches.eq_of_factsAbove hc (hshare.eq_of_isEntityClause hclause hentity).1

/-- A clause that something is an entity is the first clause of a walk. -/
theorem first_of_isEntityClause {c : ObjectType} (hc : m.IsOwnEntity c) {i : Nat}
    {clause : Clause} (hi : (m.walk d [] c).clauses[i]? = some clause)
    (hentity : clause.IsEntityClause) :
    i = 0 ∧ ∃ name, snakeCase c.name = .ok name ∧
      clause = containmentClause (name ++ "_is_entity") c.name "Entity" := by
  have hnew : c.id ∉ ([] : List Id) := List.not_mem_nil
  have horder : m.reach [] [c] = _ := reach_cons_of_notMem hnew
  have hnodup := (nodup_reach (m := m) [] [c]).1
  rw [(walk_comesOf d [] c).1, horder, List.flatMap_cons, List.getElem?_append] at hi
  split at hi
  · have hmem : clause ∈ (m.placement d c).1 := List.mem_of_getElem? hi
    have hshare := contributes_placement (m := m) d c
    obtain ⟨-, hone, hname⟩ := hshare.eq_of_isEntityClause hmem hentity
    have hlength : (m.placement d c).1.length = 1 := by rw [hone, List.length_singleton]
    exact ⟨by omega, hname⟩
  · -- what follows the concept is not the concept
    exfalso
    obtain ⟨e, he, hmem⟩ := List.mem_flatMap.mp (List.mem_of_getElem? hi)
    have hreached : e ∈ (m.reach [] [c]).1 := by
      rw [horder]
      exact List.mem_cons_of_mem _ he
    obtain rfl := eq_of_mem_placement hc hreached hmem hentity
    rw [horder, List.map_cons, List.nodup_cons] at hnodup
    exact hnodup.1 (List.mem_map_of_mem he)

/-! ## Walks -/

theorem walkGives_reach {c : ObjectType} (hc : m.IsOwnEntity c) :
    m.WalkGives d c (m.reach [] [c]).1 where
  depthFirst := ⟨_, depthFirst_iff.mpr rfl⟩
  reached := by
    intro e
    have hown : ∀ t ∈ [c], m.IsOwnEntity t := by
      intro t ht
      rwa [List.mem_singleton.mp ht]
    rw [mem_reach_iff hown]
    simp only [List.mem_singleton, exists_eq_left]
  once := (nodup_reach [] [c]).1
  shares := by
    refine ⟨(m.reach [] [c]).1.map (m.placement d), ?_, ?_, ?_⟩
    · rw [List.forall₂_map_right_iff, List.forall₂_same]
      intro e _
      exact contributes_placement d e
    · rw [(walk_comesOf d [] c).1, List.flatMap_map]
    · rw [(walk_comesOf d [] c).2, List.flatMap_map]
  entity := fun _ _ hi hentity => first_of_isEntityClause hc hi hentity

/-- **The contents of a walk.** A walk from an entity type of the model gives what the entity types
that it reaches contribute, one after the other in the order of a search in depth, and this order is
the only one. At most its first clause says that something is an entity, and then it says so of the
entity type at which the walk begins. -/
theorem walk_contents {c : ObjectType} (hc : m.IsOwnEntity c) :
    ∃! order, m.WalkGives d c order := by
  refine ⟨(m.reach [] [c]).1, walkGives_reach hc, ?_⟩
  intro order hgives
  obtain ⟨after, hsearch⟩ := hgives.depthFirst
  rw [depthFirst_iff.mp hsearch]

end Model

/-! ## Animals -/

namespace Animals

def animal : ObjectType := { id := some "animal", name := "Animal", kind := .entity }

def bird : ObjectType := { id := some "bird", name := "bird", kind := .entity }

def bat : ObjectType := { id := some "bat", name := "Bat", kind := .entity }

def mammal : ObjectType := { id := some "mammal", name := "Mammal", kind := .entity }

def dog : ObjectType := { id := some "dog", name := "Dog", kind := .entity }

/-- Bats are said to be birds and mammals, and mammals and dogs to be each other. -/
def model : Model where
  objects := [animal, bird, bat, mammal, dog]
  subtypeFacts :=
    [{ id := some "f1", subtypeId := some "bird", supertypeId := some "animal" },
      { id := some "f2", subtypeId := some "mammal", supertypeId := some "animal" },
      { id := some "f3", subtypeId := some "bat", supertypeId := some "bird" },
      { id := some "f4", subtypeId := some "bat", supertypeId := some "mammal" },
      { id := some "f5", subtypeId := some "dog", supertypeId := some "mammal" },
      { id := some "f6", subtypeId := some "mammal", supertypeId := some "dog" }]

/-- A diagram without mammals. -/
def diagram : Diagram where
  id := some "diagram"
  name := "Animal:concept"
  subjectRefs := [some "animal", some "bird", some "bat", some "dog"]

/-- A walk from animals, past birds, whose name is rejected, and around mammals and dogs. -/
theorem walk_contents_animals :
    model.IsOwnEntity animal ∧ ∃! order, model.WalkGives diagram animal order := by
  have hown : model.IsOwnEntity animal := rfl
  exact ⟨hown, Model.walk_contents hown⟩

end Animals

end RoleSchema
