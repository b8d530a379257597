import RoleSchema.Proofs.Data.Unfolding
import RoleSchema.Proofs.Settings.Variables

/-!
# Overrides in graphs and in trees

In a graph, binding a text at a path of keys changes mappings where they are. Where no mapping
stands in two places, the graph stands for a tree, and what the change leaves stands for the tree
with the text bound there. Only mappings of the tree are changed, and those that are made on the way
are new.

* `becomes_bindWithin`: binding at a path does in a graph what it does in a tree.
* `simulates_overrideGraph`: so do the variables of an environment.
-/

namespace RoleSchema.Settings

open RoleSchema.Graph (Becomes Keeps UnfoldsTo)

variable {g g' : Graph} {leaf : Item → Value} {m n root : Nat} {e : Entries} {used : Set Nat}
  {v : Value} {key : String} {path : List String} {sectionName value : String} {vars : Variables}

/-! ## One variable -/

/-- The mappings of a tree, and those that are not there yet. -/
def withNew (g : Graph) (used : Set Nat) : Set Nat := used ∪ {m | g.places.size ≤ m}

theorem withNew_subset {used' : Set Nat} (hsize : g.places.size ≤ g'.places.size)
    (h : used' ⊆ withNew g used) : withNew g' used' ⊆ withNew g used :=
  Set.union_subset h fun _ hm => .inr (hsize.trans hm)

theorem keeps_of_withNew (h : g.Keeps g' (withNew g used)) : g.Keeps g' used where
  size := h.size
  get m hm hno := h.get m hm fun hmem => hmem.elim hno (Nat.not_le.mpr hm)
  other := h.other

/-- The graph with a key of a mapping bound to a new one, which is empty. -/
def opened (g : Graph) (n : Nat) (key : String) : Graph :=
  (g.push (.mapping [])).1.bind n (.text key) (.place g.places.size)

/-- Where the first key leads to a mapping, binding goes on in it. -/
theorem bindWithin_of_some (hpath : path ≠ []) (hm : g.mappingUnder? n (.text key) = some m) :
    bindWithin v n (key :: path) g = bindWithin v m path g := by
  unfold Graph.mappingUnder? at hm
  rw [bindWithin, hm]
  exact hpath

/-- Where it leads to none, it is first bound to a new one. -/
theorem bindWithin_of_none (hpath : path ≠ []) (hno : g.mappingUnder? n (.text key) = none) :
    bindWithin v n (key :: path) g = bindWithin v g.places.size path (opened g n key) := by
  unfold Graph.mappingUnder? at hno
  rw [bindWithin, hno]
  · rfl
  · exact hpath

theorem mappingUnder?_opened {b : Bindings Item} (hget : g.get n = .mapping b) (key : String) :
    (opened g n key).mappingUnder? n (.text key) = some g.places.size := by
  have hlt := Graph.lt_of_get_mapping hget
  have hpushed : (g.push (.mapping [])).1.get n = .mapping b := by
    rw [Graph.get_push_of_lt hlt, hget]
  have hbound := Graph.get_set_self (c := .mapping (b.put (.text key) (.place g.places.size)))
    (Graph.lt_of_get_mapping hpushed)
  rw [Graph.mappingUnder?, opened, Graph.bind, Graph.bindings_of_get hpushed,
    Graph.bindings_of_get hbound, Bindings.get?_put_self rfl, Option.bind_some]
  refine Graph.mappingAt?_of_get (b := []) ?_
  rw [Graph.get_set_of_ne hlt.ne, Graph.get_push_self]

theorem becomes_opened (h : UnfoldsTo g leaf (.place n) (.mapping e) used) (key : String) :
    Becomes leaf g n (withNew g used) (opened g n key) (e.put (.text key) (.mapping [])) := by
  have hkeeps := Keeps.push g (.mapping [])
  have hnew : UnfoldsTo (g.push (.mapping [])).1 leaf (.place g.places.size) (.mapping [])
      (insert g.places.size ∅) := .mapping Graph.get_push_self .nil (Set.notMem_empty _)
  have hapart : Disjoint (insert g.places.size ∅) used := Set.disjoint_insert_left.mpr
    ⟨fun hmem => lt_irrefl _ (h.lt_size hmem), Set.empty_disjoint _⟩
  have hbound : Becomes leaf (g.push (.mapping [])).1 n (used ∪ insert g.places.size ∅)
      (opened g n key) (e.put (.text key) (.mapping [])) :=
    .bind (h.keep hkeeps (Set.disjoint_empty _)) hnew hapart
  refine .trans (hkeeps.mono (Set.empty_subset _)) hbound (Set.union_subset_union_right _ ?_)
  exact Set.insert_subset (Nat.le_refl _) (Set.empty_subset _)

/-- A change of the mapping that a key leads to is a change of what the key is bound to. -/
theorem becomes_of_within {change : Entries → Entries}
    (h : UnfoldsTo g leaf (.place n) (.mapping e) used)
    (hm : g.mappingUnder? n (.text key) = some m)
    (hinner : ∀ sub old, UnfoldsTo g leaf (.place m) (.mapping sub) old →
      Becomes leaf g m (withNew g old) g' (change sub)) :
    Becomes leaf g n (withNew g used) g'
      (e.put (.text key) (.mapping (change (below e key)))) := by
  obtain ⟨sub, old, he, hold, hsub, hwithin⟩ := Becomes.within h hm
  have hbelow : below e key = sub := by rw [below, he]
  rw [hbelow]
  refine (hwithin (hinner sub old hsub) ?_).mono (Set.union_subset Set.subset_union_left ?_)
  · rintro k ⟨hk, hused⟩
    exact hk.elim id fun hle => absurd (h.lt_size hused) (Nat.not_lt.mpr hle)
  · exact Set.union_subset_union_left _ hold

/-- Binding at a path does in a graph what it does in a tree. -/
theorem becomes_bindWithin (hvalue : leaf (.value v) = v) (hno : v.isMapping = false)
    (hpath : path ≠ []) (h : UnfoldsTo g leaf (.place n) (.mapping e) used) :
    Becomes leaf g n (withNew g used) (bindWithin v n path g) (bindAt v path e) := by
  induction path generalizing g n e used with
  | nil => exact absurd rfl hpath
  | cons key path ih =>
    by_cases hlast : path = []
    · subst hlast
      have hitem : ∀ w, leaf (.value v) = w → w.isMapping = false →
          UnfoldsTo g leaf (.value v) w ∅ := by
        rintro _ rfl hw
        exact .leaf rfl nofun hw
      refine (Becomes.bind h (hitem v hvalue hno) (Set.empty_disjoint _)).mono ?_
      exact Set.union_subset_union_right _ (Set.empty_subset _)
    · rw [bindAt_cons hlast]
      cases hm : g.mappingUnder? n (.text key) with
      | some m =>
        rw [bindWithin_of_some hlast hm]
        exact becomes_of_within h hm fun sub old hsub => ih hlast hsub
      | none =>
        rw [bindWithin_of_none hlast hm]
        obtain ⟨b, hget⟩ := h.exists_get
        obtain ⟨⟨used', hsub, hmade⟩, hkeeps⟩ := becomes_opened h key
        -- the key leads to a mapping now, the new one
        have hwithin := becomes_of_within hmade (mappingUnder?_opened hget key)
          fun sub old hsub => ih hlast hsub
        have hbelow : below e key = [] := by
          unfold below
          split
          · next sub hsub => exact absurd hsub (h.get?_ne_mapping hm sub)
          · rfl
        have hbelow' : below (e.put (.text key) (.mapping [])) key = [] := by
          rw [below, Bindings.get?_put_self rfl]
        rw [hbelow', Bindings.put_put_self rfl] at hwithin
        rw [hbelow]
        exact .trans hkeeps hwithin (withNew_subset hkeeps.size hsub)

/-! ## All variables -/

/-- A section in which keys can be bound: it is a mapping or not there. -/
def OpenAt (g : Graph) (root : Nat) (sectionName : String) : Prop :=
  ∀ item, (g.bindings root).get? (.text sectionName) = some item →
    (g.mappingAt? item).isSome = true

/-- A section is open in a graph exactly if it is in the tree. -/
theorem openAt_iff (h : UnfoldsTo g leaf (.place root) (.mapping e) used) :
    OpenAt g root sectionName ↔ OpenSection e sectionName := by
  unfold OpenAt OpenSection
  obtain ⟨hb, he⟩ | ⟨item, v, old, hb, he, hitem, -⟩ := h.get? (.text sectionName)
  · rw [hb, he]
    exact iff_of_true nofun nofun
  · rw [hb, he]
    have hmapping := hitem.isSome_mappingAt?
    constructor
    · intro hopen w hw
      cases hw
      exact Value.exists_of_isMapping (hmapping.symm.trans (hopen item rfl))
    · intro hopen i hi
      cases hi
      obtain ⟨sub, rfl⟩ := hopen v rfl
      exact hmapping

theorem overrideWithin_of_open (hopen : OpenAt g root sectionName) (hpath : path ≠ []) :
    overrideWithin root g sectionName path value =
      .ok (bindWithin (.text value) root (sectionName :: path) g) := by
  unfold overrideWithin
  cases hget : (g.bindings root).get? (.text sectionName) with
  | none =>
    have hno : g.mappingUnder? root (.text sectionName) = none := by
      rw [Graph.mappingUnder?, hget, Option.bind_none]
    exact congrArg Except.ok (bindWithin_of_none hpath hno).symm
  | some item =>
    obtain ⟨m, hm⟩ := Option.isSome_iff_exists.mp (hopen item hget)
    have hsome : g.mappingUnder? root (.text sectionName) = some m := by
      rw [Graph.mappingUnder?, hget, Option.bind_some, hm]
    simp only [hm]
    exact congrArg Except.ok (bindWithin_of_some hpath hsome).symm

theorem exists_overrideWithin_error (hclosed : ¬ OpenAt g root sectionName) :
    ∃ fault, overrideWithin root g sectionName path value = .error fault := by
  simp only [OpenAt, not_forall, Bool.not_eq_true, Option.isSome_eq_false_iff,
    Option.isNone_iff_eq_none] at hclosed
  obtain ⟨item, hget, hno⟩ := hclosed
  simp only [overrideWithin, hget, hno]
  exact ⟨_, rfl⟩

/-- What overrides have come to in a graph, and what they have come to in the tree that it stood
for. -/
structure Simulates (leaf : Item → Value) (g : Graph) (root : Nat) (used : Set Nat)
    (graph : Overridden Graph) (tree : Overridden Entries) : Prop where
  settings : Becomes leaf g root (withNew g used) graph.settings tree.settings
  applied : graph.applied = tree.applied
  fault : graph.fault = none ↔ tree.fault = none

theorem simulates_applyAll {overrides : List (String × String × String × List String)}
    (htexts : ∀ s, leaf (.value (.text s)) = .text s) (hne : ∀ o ∈ overrides, o.2.2.2 ≠ [])
    (h : UnfoldsTo g leaf (.place root) (.mapping e) used) :
    Simulates leaf g root used (applyAll (overrideWithin root) g overrides)
      (applyAll overrideSection e overrides) := by
  induction overrides generalizing g e used with
  | nil => exact ⟨(Becomes.refl h).mono Set.subset_union_left, rfl, Iff.rfl⟩
  | cons o rest ih =>
    obtain ⟨name, value, sectionName, path⟩ := o
    obtain ⟨hpath, hne⟩ := List.forall_mem_cons.mp hne
    by_cases hopen : OpenAt g root sectionName
    · simp only [applyAll, overrideWithin_of_open hopen hpath,
        overrideSection_of_open ((openAt_iff h).mp hopen) hpath]
      obtain ⟨⟨used', hsub, hbound⟩, hkeeps⟩ :=
        becomes_bindWithin (htexts value) rfl (List.cons_ne_nil sectionName path) h
      obtain ⟨hsettings, happlied, hfault⟩ := ih hne hbound
      exact ⟨.trans hkeeps hsettings (withNew_subset hkeeps.size hsub),
        congrArg ((name, value) :: ·) happlied, hfault⟩
    · obtain ⟨fault, hgraph⟩ : ∃ fault, overrideWithin root g sectionName path value =
          .error fault := exists_overrideWithin_error hopen
      obtain ⟨fault', htree⟩ : ∃ fault, overrideSection e sectionName path value =
          .error fault := by
        cases happly : overrideSection e sectionName path value with
        | error fault => exact ⟨fault, rfl⟩
        | ok e' =>
          exact absurd ((openAt_iff h).mpr (exists_overrideSection_iff.mp ⟨e', happly⟩)) hopen
      simp only [applyAll, hgraph, htree]
      exact ⟨(Becomes.refl h).mono Set.subset_union_left, rfl,
        iff_of_false (Option.some_ne_none fault) (Option.some_ne_none fault')⟩

/-- **Variables do in a graph what they do in the tree that it stands for.** -/
theorem simulates_overrideGraph (htexts : ∀ s, leaf (.value (.text s)) = .text s)
    (h : UnfoldsTo g leaf (.place root) (.mapping e) used) :
    Simulates leaf g root used (overrideGraph vars root g) (override vars e) :=
  simulates_applyAll htexts (fun _ ho => ne_nil_of_targetIn? (mem_overridesIn.mp ho).2.2) h

end RoleSchema.Settings
