import RoleSchema.Proofs.Settings.Layers
import RoleSchema.Proofs.Yaml.Documents

/-!
# What is in the way of drafts

A draft is a tree, or an item of a graph in which a mapping can stand in several places. Drafts that
are trees come to what the trees come to; with others, nothing may go wrong in the graph in which
they are put together.

* `Draft.expected_base_iff`: what the documents of the base file come to.
* `Draft.expected_layered_iff`: what comes on top of the base.
-/

namespace RoleSchema.Settings

open Files (Path)

/-! ## Mappings that stand in several places -/

section

variable {g : Graph} {base layer root : Nat} {layers : List Nat} {vars : Variables}
  {codecs : Text.Codecs}

theorem result_mergedGraph (h : (g.merge base layer).fault = none) :
    (mergedGraph g base layer).result = .ok (g.merge base layer).graph := by
  simp only [mergedGraph, h]

theorem expected_mergedGraph_iff :
    Expected (mergedGraph g base layer) ↔ (g.merge base layer).fault = none := by
  cases hfault : (g.merge base layer).fault with
  | none => exact iff_of_true (expected_of_ok (result_mergedGraph hfault)) rfl
  | some fault =>
    have hresult : (mergedGraph g base layer).result = .error (.merging fault) := by
      simp only [mergedGraph, hfault]
    exact iff_of_false (not_expected_of_error hresult rfl) nofun

/-- The mappings at some places can be merged one after the other into that at `base`. -/
def GraphMergeableAll (base : Nat) : Graph → List Nat → Prop
  | _, [] => True
  | g, layer :: rest =>
    (g.merge base layer).fault = none ∧ GraphMergeableAll base (g.merge base layer).graph rest

theorem expected_mergedGraphAll_iff :
    Expected (mergedGraphAll g base layers) ↔ GraphMergeableAll base g layers := by
  induction layers generalizing g with
  | nil => exact iff_of_true (expected_pure g) trivial
  | cons layer rest ih =>
    unfold mergedGraphAll GraphMergeableAll
    rw [← ih]
    exact expected_bind_iff_of_iff expected_mergedGraph_iff result_mergedGraph

/-- The entries of the mapping at a place, as deep as settings go. -/
def entriesAt (g : Graph) (place : Nat) : Entries :=
  (entries? (Graph.valueOf (g.valuesTo settingsDepth) (.place place))).getD []

theorem expected_checkedGraph_iff : Expected (checkedGraph codecs g root vars) ↔
    (overrideGraph vars root g).fault = none ∧
      Readable (entriesAt (overrideGraph vars root g).settings root) := by
  rw [← expected_checked_iff codecs]
  exact expected_bind_iff_of_iff expected_reported_iff result_reported

end

/-! ## Drafts -/

namespace Draft

variable {base d : Draft} {document : Option Draft} {vars : Variables} {ds : Yaml.Documents}
  {codecs : Text.Codecs}

/-- A draft whose mappings, if it is a tree, bind each key once. -/
def Proper (d : Draft) : Prop := ∀ entries : Entries, d = .tree (.mapping entries) → entries.Proper

theorem proper_first? (h : ds.Proper) (hfirst : first? ds = some d) : d.Proper := by
  rintro entries rfl
  obtain ⟨root, hroot, hd⟩ := Option.map_eq_some_iff.mp hfirst
  split at hd
  · refine h.entries (List.mem_map.mpr ⟨root, List.mem_of_head? hroot, ?_⟩)
    exact Draft.tree.inj hd
  · cases hd

/-- Nothing is in the way of what the documents of a base file come to, in case they are
mappings. -/
structure BaseFits (ds : Yaml.Documents) : Prop where
  tree : ds.isTree = true → Consistent ds.values
  shared : ds.isTree = false → ∀ first rest,
    (ds.roots.filter fun r => !ds.graph.isEmpty r).mapM ds.graph.mappingAt? =
      some (first :: rest) → GraphMergeableAll first ds.graph rest

/-- **What the documents of a base file come to** meets only expected faults if nothing is in its
way, and only then. -/
theorem expected_base_iff {path : Path} (h : ds.Proper) :
    Expected (Draft.base path ds) ↔ BaseFits ds := by
  unfold Draft.base
  split
  · next htree =>
    have hfits : BaseFits ds ↔ Consistent ds.values := by
      refine ⟨fun hfits => hfits.tree htree, fun hc => ⟨fun _ => hc, fun hno => ?_⟩⟩
      rw [htree] at hno
      cases hno
    rw [hfits, expected_bind_pure_iff]
    exact expected_baseEntries_iff fun entries => h.entries
  · next hshared =>
    have hfits : BaseFits ds ↔ ∀ first rest,
        (ds.roots.filter fun r => !ds.graph.isEmpty r).mapM ds.graph.mappingAt? =
          some (first :: rest) → GraphMergeableAll first ds.graph rest :=
      ⟨fun hfits => hfits.shared (Bool.eq_false_iff.mpr hshared),
        fun hall => ⟨fun htree => absurd htree hshared, fun _ => hall⟩⟩
    rw [hfits]
    split
    · next hnone =>
      refine iff_of_true (expected_of_error rfl rfl) fun first rest hsome => ?_
      rw [hsome] at hnone
      cases hnone
    · next hnil =>
      refine iff_of_true (expected_pure _) fun first rest hsome => ?_
      rw [hsome] at hnil
      cases hnil
    · next first rest hsome =>
      rw [expected_bind_pure_iff, expected_mergedGraphAll_iff]
      refine ⟨fun hall first' rest' hsome' => ?_, fun hall => hall first rest hsome⟩
      cases hsome.symm.trans hsome'
      exact hall

/-! ### Drafts in one graph -/

/-- The place of a draft that is a mapping in its graph. -/
def place (base : Draft) : Nat := base.inGraph.2.place?.getD 0

/-- The graph of the base with another draft added, and the item of that there. -/
def beside (base d : Draft) : Graph × Item :=
  let (g, moved) := base.inGraph.1.append d.inGraph.1
  (g, moved d.inGraph.2)

/-- The graph of the base with a document for the environment merged in, where this is a mapping. -/
def joined (base : Draft) (document : Option Draft) : Graph :=
  document.elim base.inGraph.1 fun d =>
    let (g, item) := base.beside d
    (g.mappingAt? item).elim g fun layer => (g.merge base.place layer).graph

/-- Nothing is in the way of a document for the environment in the graph. -/
def Takes (base : Draft) (document : Option Draft) : Prop :=
  ∀ d, document = some d → ∃ layer,
    (base.beside d).1.mappingAt? (base.beside d).2 = some layer ∧
      ((base.beside d).1.merge base.place layer).fault = none

/-- Nothing is in the way of what comes on top of the base in the graph. -/
structure GraphFits (base : Draft) (document : Option Draft) (vars : Variables) : Prop where
  merging : base.Takes document
  opens : (overrideGraph vars base.place (base.joined document)).fault = none
  reading : Readable
    (entriesAt (overrideGraph vars base.place (base.joined document)).settings base.place)

theorem layeredGraph_none : layeredGraph codecs base none vars =
    checkedGraph codecs (base.joined none) base.place vars := rfl

theorem layeredGraph_some_of_mapping {layer : Nat}
    (h : (base.beside d).1.mappingAt? (base.beside d).2 = some layer) :
    layeredGraph codecs base (some d) vars =
      mergedGraph (base.beside d).1 base.place layer >>= fun g =>
        checkedGraph codecs g base.place vars := by
  unfold beside at h
  simp only [layeredGraph, beside, place]
  simp only [h]

theorem result_layeredGraph_of_none
    (h : (base.beside d).1.mappingAt? (base.beside d).2 = none) :
    (layeredGraph codecs base (some d) vars).result =
      .error (.environmentNotMapping ((base.beside d).1.outline (base.beside d).2)) := by
  unfold beside at h
  simp only [layeredGraph, beside]
  simp only [h]
  rfl

theorem expected_layeredGraph_iff :
    Expected (layeredGraph codecs base document vars) ↔ GraphFits base document vars := by
  cases document with
  | none =>
    rw [layeredGraph_none, expected_checkedGraph_iff]
    exact ⟨fun ⟨hopens, hreading⟩ => ⟨nofun, hopens, hreading⟩, fun h => ⟨h.opens, h.reading⟩⟩
  | some d =>
    cases hlayer : (base.beside d).1.mappingAt? (base.beside d).2 with
    | none =>
      have hno : ¬ Expected (layeredGraph codecs base (some d) vars) :=
        not_expected_of_error (result_layeredGraph_of_none hlayer) rfl
      refine iff_of_false hno fun hfits => ?_
      obtain ⟨layer, hsome, -⟩ := hfits.merging d rfl
      rw [hlayer] at hsome
      cases hsome
    | some layer =>
      have hjoined : base.joined (some d) = ((base.beside d).1.merge base.place layer).graph := by
        simp only [joined, Option.elim, hlayer]
      rw [layeredGraph_some_of_mapping hlayer,
        expected_bind_iff_of_iff expected_mergedGraph_iff result_mergedGraph,
        expected_checkedGraph_iff, ← hjoined]
      constructor
      · rintro ⟨hmerge, hopens, hreading⟩
        refine ⟨fun d' hd => ⟨layer, ?_⟩, hopens, hreading⟩
        cases hd
        exact ⟨hlayer, hmerge⟩
      · rintro ⟨hmerging, hopens, hreading⟩
        obtain ⟨layer', hlayer', hmerge⟩ := hmerging d rfl
        cases hlayer.symm.trans hlayer'
        exact ⟨hmerge, hopens, hreading⟩

/-- Drafts that come to what trees come to. -/
def AreTrees (base : Draft) (document : Option Draft) (entries : Entries) (v : Option Value) :
    Prop :=
  base = .tree (.mapping entries) ∧ document = v.map .tree

/-- Nothing is in the way of what comes on top of the base. -/
structure Fits (base : Draft) (document : Option Draft) (vars : Variables) : Prop where
  tree : ∀ entries v, AreTrees base document entries v → Settings.Fits entries v vars
  shared : (∀ entries v, ¬ AreTrees base document entries v) → GraphFits base document vars

theorem AreTrees.unique {entries entries' : Entries} {v v' : Option Value}
    (h : AreTrees base document entries v) (h' : AreTrees base document entries' v') :
    entries = entries' ∧ v = v' := by
  obtain ⟨rfl, rfl⟩ := h
  obtain ⟨hentries, hv⟩ := h'
  have hinj : Function.Injective Draft.tree := fun _ _ heq => Draft.tree.inj heq
  exact ⟨Value.mapping.inj (hinj hentries), Option.map_injective hinj hv⟩

theorem layered_of_shared (h : ∀ entries v, ¬ AreTrees base document entries v) :
    layered codecs base document vars = layeredGraph codecs base document vars := by
  unfold layered
  split
  · exact absurd ⟨rfl, rfl⟩ (h _ none)
  · next v => exact absurd ⟨rfl, rfl⟩ (h _ (some v))
  · rfl

/-- **What comes on top of the base**, given as a draft, meets only expected faults if nothing is in
its way, and only then. -/
theorem expected_layered_iff (h : ∀ d, document = some d → d.Proper) :
    Expected (base.layered codecs document vars) ↔ base.Fits document vars := by
  by_cases htrees : ∃ entries v, AreTrees base document entries v
  · obtain ⟨entries, v, htrees⟩ := htrees
    have hfits : base.Fits document vars ↔ Settings.Fits entries v vars := by
      refine ⟨fun hfits => hfits.tree entries v htrees, fun hfits => ⟨?_, ?_⟩⟩
      · intro entries' v' htrees'
        obtain ⟨rfl, rfl⟩ := htrees.unique htrees'
        exact hfits
      · exact fun hshared => absurd htrees (hshared entries v)
    obtain ⟨rfl, rfl⟩ := htrees
    rw [layered_tree, hfits]
    refine Settings.expected_layered_iff fun layer hv => ?_
    subst hv
    exact h _ rfl layer rfl
  · have hshared : ∀ entries v, ¬ AreTrees base document entries v :=
      fun entries v hno => htrees ⟨entries, v, hno⟩
    rw [layered_of_shared hshared, expected_layeredGraph_iff]
    exact ⟨fun hfits => ⟨fun entries v hno => absurd hno (hshared entries v), fun _ => hfits⟩,
      fun hfits => hfits.shared hshared⟩

end Draft

end RoleSchema.Settings
