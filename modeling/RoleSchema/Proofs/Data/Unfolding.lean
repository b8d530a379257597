import Mathlib.Data.Set.Lattice
import Mathlib.Order.CompletePartialOrder
import RoleSchema.Data.Graph.Basic
import RoleSchema.Proofs.Data.Paths

/-!
# Graphs as trees

A mapping in a graph in which keys lead to no mapping twice stands for a tree. Unfolding it takes
the mappings that keys lead to, one within the other, and reads everything else as a leaf. The
places of the mappings that have been unfolded are kept with the tree: a change of the graph at
other places leaves the tree as it is, and a key that is bound anew is bound anew in the tree.

* `Graph.Unfolds`, `Graph.UnfoldsTo`: what bindings and items stand for.
* `Graph.Keeps`: a graph with changes at some mappings only, and with further places.
* `Graph.Unfolds.keep`: what is not changed stands for what it stood for.
* `Graph.UnfoldsTo.put`: what a key is bound to, and what binding it anew leaves.
* `Graph.Becomes`: what a change makes of a mapping.
* `Graph.UnfoldsTo.at?`: keys lead on in the graph as they do in the tree.
-/

namespace RoleSchema.Graph

variable {g g' g'' : Graph} {leaf : Item → Value} {m n : Nat} {c : Collection} {item : Item}
  {b : Bindings Item} {e : Entries} {v : Value}

/-! ## Places -/

theorem get_of_le (h : g.places.size ≤ n) : g.get n = .list [] :=
  Array.getD_eq_getD_getElem? .. |>.trans (by rw [Array.getElem?_eq_none h]; rfl)

theorem lt_of_get_mapping (h : g.get n = .mapping b) : n < g.places.size := by
  by_contra hno
  rw [get_of_le (Nat.not_lt.mp hno)] at h
  cases h

@[simp] theorem size_set : (g.set n c).places.size = g.places.size := Array.size_setIfInBounds ..

theorem get_set_self (h : n < g.places.size) : (g.set n c).get n = c := by
  simp [Graph.get, Graph.set, h]

theorem get_set_of_ne (h : n ≠ m) : (g.set n c).get m = g.get m := by
  simp [Graph.get, Graph.set, Array.getElem?_setIfInBounds_ne h]

@[simp] theorem size_push : (g.push c).1.places.size = g.places.size + 1 := Array.size_push ..

theorem get_push_of_lt (h : n < g.places.size) : (g.push c).1.get n = g.get n := by
  simp [Graph.get, Graph.push, Array.getElem?_push_lt h, h]

theorem get_push_self : (g.push c).1.get g.places.size = c := by
  simp [Graph.get, Graph.push]

theorem bindings_of_get (h : g.get n = .mapping b) : g.bindings n = b := by
  unfold bindings
  rw [h]

theorem mappingAt?_eq_some_iff :
    g.mappingAt? item = some n ↔ item = .place n ∧ ∃ b, g.get n = .mapping b := by
  cases item with
  | value v => exact iff_of_false nofun nofun
  | place m =>
    unfold mappingAt?
    simp only
    split
    · next b hget =>
      refine ⟨fun h => ?_, fun ⟨h, _⟩ => ?_⟩
      · cases h
        exact ⟨rfl, b, hget⟩
      · cases h
        rfl
    · next hno => exact iff_of_false nofun fun ⟨h, b, hget⟩ => hno b (Item.place.inj h ▸ hget)

theorem mappingAt?_of_get (h : g.get n = .mapping b) : g.mappingAt? (.place n) = some n :=
  mappingAt?_eq_some_iff.mpr ⟨rfl, b, h⟩

/-- The place of the mapping that a key of the mapping at a place is bound to. -/
def mappingUnder? (g : Graph) (n : Nat) (key : Value) : Option Nat :=
  ((g.bindings n).get? key).bind g.mappingAt?

/-! ## Changes -/

/-- A graph with changes of mappings at some places only, and with further places. -/
structure Keeps (g g' : Graph) (changed : Set Nat) : Prop where
  size : g.places.size ≤ g'.places.size
  get : ∀ n < g.places.size, n ∉ changed → g'.get n = g.get n
  other : ∀ n < g.places.size, (∀ b, g.get n ≠ .mapping b) → g'.get n = g.get n

namespace Keeps

variable {changed changed' : Set Nat}

theorem refl (g : Graph) (changed : Set Nat) : g.Keeps g changed where
  size := le_rfl
  get _ _ _ := rfl
  other _ _ _ := rfl

/-- Of the places that are changed later, those that were there at first must have been changed
before. -/
theorem trans (h : g.Keeps g' changed) (h' : g'.Keeps g'' changed')
    (hchanged : ∀ n ∈ changed', n ∈ changed ∨ g.places.size ≤ n) : g.Keeps g'' changed where
  size := h.size.trans h'.size
  get n hn hno := by
    have hno' : n ∉ changed' := fun hn' => (hchanged n hn').elim hno (Nat.not_le.mpr hn)
    rw [h'.get n (hn.trans_le h.size) hno', h.get n hn hno]
  other n hn hno := by
    have hkept := h.other n hn hno
    rw [h'.other n (hn.trans_le h.size) fun b hb => hno b (hkept.symm.trans hb), hkept]

theorem mono (h : g.Keeps g' changed) (hsub : changed ⊆ changed') : g.Keeps g' changed' where
  size := h.size
  get n hn hno := h.get n hn fun hn' => hno (hsub hn')
  other := h.other

theorem set (h : g.get n = .mapping b) : g.Keeps (g.set n c) {n} where
  size := size_set.ge
  get _ _ hno := get_set_of_ne fun heq => hno heq.symm
  other _ _ hno := get_set_of_ne fun heq => hno b (heq ▸ h)

theorem push (g : Graph) (c : Collection) : g.Keeps (g.push c).1 ∅ where
  size := by simp
  get _ hn _ := get_push_of_lt hn
  other _ hn _ := get_push_of_lt hn

/-- An item that is no mapping is none after changes of mappings. -/
theorem mappingAt?_eq_none (h : g.Keeps g' changed) (hno : g.mappingAt? item = none)
    (hplace : ∀ n, item = .place n → n < g.places.size) : g'.mappingAt? item = none := by
  rw [Option.eq_none_iff_forall_ne_some] at hno ⊢
  intro n hn
  obtain ⟨rfl, b, hget⟩ := mappingAt?_eq_some_iff.mp hn
  rw [h.other n (hplace n rfl) fun b hb => hno n (mappingAt?_of_get hb)] at hget
  exact hno n (mappingAt?_of_get hget)

end Keeps

/-! ## Unfolding -/

/-- Bindings stand for entries. What is no mapping is read as a leaf; a mapping is unfolded, and no
mapping is unfolded twice. The last argument has the places of those that are. -/
inductive Unfolds (g : Graph) (leaf : Item → Value) : Bindings Item → Entries → Set Nat → Prop
  | nil : Unfolds g leaf [] [] ∅
  | leaf {k : Value} {item : Item} {b : Bindings Item} {e : Entries} {used : Set Nat}
      (hno : g.mappingAt? item = none) (hplace : ∀ n, item = .place n → n < g.places.size)
      (hleaf : (leaf item).isMapping = false) (hrest : Unfolds g leaf b e used) :
      Unfolds g leaf ((k, item) :: b) ((k, leaf item) :: e) used
  | mapping {k : Value} {n : Nat} {below b : Bindings Item} {sub e : Entries} {inner used : Set Nat}
      (hget : g.get n = .mapping below) (hbelow : Unfolds g leaf below sub inner)
      (hfresh : n ∉ inner) (hrest : Unfolds g leaf b e used)
      (hapart : Disjoint (insert n inner) used) :
      Unfolds g leaf ((k, .place n) :: b) ((k, .mapping sub) :: e) (insert n inner ∪ used)

/-- An item stands for a value, in the same way. -/
inductive UnfoldsTo (g : Graph) (leaf : Item → Value) : Item → Value → Set Nat → Prop
  | leaf {item : Item} (hno : g.mappingAt? item = none)
      (hplace : ∀ n, item = .place n → n < g.places.size)
      (hleaf : (leaf item).isMapping = false) : UnfoldsTo g leaf item (leaf item) ∅
  | mapping {n : Nat} {below : Bindings Item} {sub : Entries} {inner : Set Nat}
      (hget : g.get n = .mapping below) (hbelow : Unfolds g leaf below sub inner)
      (hfresh : n ∉ inner) : UnfoldsTo g leaf (.place n) (.mapping sub) (insert n inner)

variable {used new changed : Set Nat} {k key : Value}

theorem Unfolds.cons (hitem : UnfoldsTo g leaf item v new) (hrest : Unfolds g leaf b e used)
    (hapart : Disjoint new used) : Unfolds g leaf ((k, item) :: b) ((k, v) :: e) (new ∪ used) := by
  cases hitem with
  | leaf hno hplace hleaf =>
    rw [Set.empty_union]
    exact .leaf hno hplace hleaf hrest
  | mapping hget hbelow hfresh => exact .mapping hget hbelow hfresh hrest hapart

theorem Unfolds.exists_of_cons (h : Unfolds g leaf ((k, item) :: b) e used) :
    ∃ v e' new rest, e = (k, v) :: e' ∧ used = new ∪ rest ∧ UnfoldsTo g leaf item v new ∧
      Unfolds g leaf b e' rest ∧ Disjoint new rest := by
  cases h with
  | leaf hno hplace hleaf hrest =>
    exact ⟨_, _, ∅, _, rfl, (Set.empty_union _).symm, .leaf hno hplace hleaf, hrest,
      Set.empty_disjoint _⟩
  | mapping hget hbelow hfresh hrest hapart =>
    exact ⟨_, _, _, _, rfl, rfl, .mapping hget hbelow hfresh, hrest, hapart⟩

theorem Unfolds.get_mapping (h : Unfolds g leaf b e used) :
    ∀ n ∈ used, ∃ b, g.get n = .mapping b := by
  induction h with
  | nil => exact fun _ hn => absurd hn (Set.notMem_empty _)
  | leaf hno hplace hleaf hrest ih => exact ih
  | mapping hget hbelow hfresh hrest hapart ih ih' =>
    rintro n ((rfl | hn) | hn)
    · exact ⟨_, hget⟩
    · exact ih n hn
    · exact ih' n hn

/-- What is not changed stands for what it stood for. -/
theorem Unfolds.keep (h : Unfolds g leaf b e used) (hkeeps : g.Keeps g' changed)
    (hapart : Disjoint used changed) : Unfolds g' leaf b e used := by
  induction h with
  | nil => exact .nil
  | leaf hno hplace hleaf hrest ih =>
    exact .leaf (hkeeps.mappingAt?_eq_none hno hplace)
      (fun n hn => (hplace n hn).trans_le hkeeps.size) hleaf (ih hapart)
  | mapping hget hbelow hfresh hrest hdisjoint ih ih' =>
    obtain ⟨hhead, htail⟩ := Set.disjoint_union_left.mp hapart
    obtain ⟨hn, hinner⟩ := Set.disjoint_insert_left.mp hhead
    refine .mapping ?_ (ih hinner) hfresh (ih' htail) hdisjoint
    rw [hkeeps.get _ (lt_of_get_mapping hget) hn, hget]

namespace UnfoldsTo

theorem get_mapping (h : UnfoldsTo g leaf item v used) : ∀ n ∈ used, ∃ b, g.get n = .mapping b := by
  cases h with
  | leaf => exact fun _ hn => absurd hn (Set.notMem_empty _)
  | mapping hget hbelow hfresh =>
    rintro n (rfl | hn)
    · exact ⟨_, hget⟩
    · exact hbelow.get_mapping n hn

theorem lt_size (h : UnfoldsTo g leaf item v used) (hn : n ∈ used) : n < g.places.size :=
  have ⟨_, hget⟩ := h.get_mapping n hn
  lt_of_get_mapping hget

theorem keep (h : UnfoldsTo g leaf item v used) (hkeeps : g.Keeps g' changed)
    (hapart : Disjoint used changed) : UnfoldsTo g' leaf item v used := by
  cases h with
  | leaf hno hplace hleaf =>
    exact .leaf (hkeeps.mappingAt?_eq_none hno hplace)
      (fun n hn => (hplace n hn).trans_le hkeeps.size) hleaf
  | mapping hget hbelow hfresh =>
    obtain ⟨hn, hinner⟩ := Set.disjoint_insert_left.mp hapart
    refine .mapping ?_ (hbelow.keep hkeeps hinner) hfresh
    rw [hkeeps.get _ (lt_of_get_mapping hget) hn, hget]

/-- An item stands for a mapping exactly if it is one. -/
theorem isSome_mappingAt? (h : UnfoldsTo g leaf item v used) :
    (g.mappingAt? item).isSome = v.isMapping := by
  cases h with
  | leaf hno hplace hleaf => rw [hno, hleaf]; rfl
  | mapping hget => rw [mappingAt?_of_get hget]; rfl

theorem leaf_eq (h : UnfoldsTo g leaf item v used) (hno : v.isMapping = false) : leaf item = v := by
  cases h with
  | leaf => rfl
  | mapping => cases hno

/-- A mapping stands for one. -/
theorem exists_of_mappingAt? (h : UnfoldsTo g leaf item v used) (hm : g.mappingAt? item = some m) :
    item = .place m ∧ ∃ sub, v = .mapping sub := by
  refine ⟨(mappingAt?_eq_some_iff.mp hm).1, Value.exists_of_isMapping ?_⟩
  rw [← h.isSome_mappingAt?, hm]
  rfl

/-- What stands for a mapping is one. -/
theorem exists_of_mapping (h : UnfoldsTo g leaf item (.mapping e) used) :
    ∃ n b inner, item = .place n ∧ g.get n = .mapping b ∧ Unfolds g leaf b e inner ∧ n ∉ inner ∧
      used = insert n inner := by
  generalize hv : Value.mapping e = v at h
  cases h with
  | leaf hno hplace hleaf =>
    rw [← hv] at hleaf
    cases hleaf
  | mapping hget hbelow hfresh =>
    cases hv
    exact ⟨_, _, _, rfl, hget, hbelow, hfresh, rfl⟩

/-- A place that stands for a mapping is that of one. -/
theorem exists_get (h : UnfoldsTo g leaf (.place n) (.mapping e) used) :
    ∃ b, g.get n = .mapping b := by
  obtain ⟨_, b, _, hitem, hget, -⟩ := h.exists_of_mapping
  cases hitem
  exact ⟨b, hget⟩

end UnfoldsTo

/-! ## Keys -/

/-- What a key of bindings stands for, and what binding it anew leaves: `old` are the mappings of
what it was bound to, `rest` those of the other keys. -/
theorem Unfolds.split (h : Unfolds g leaf b e used) (key : Value) :
    ∃ old rest, used = old ∪ rest ∧ Disjoint old rest ∧
      (b.get? key = none ∧ e.get? key = none ∧ old = ∅ ∨
        ∃ item v, b.get? key = some item ∧ e.get? key = some v ∧ UnfoldsTo g leaf item v old) ∧
      ∀ {g' changed item v new}, g.Keeps g' changed → Disjoint rest changed →
        UnfoldsTo g' leaf item v new → Disjoint new rest →
        Unfolds g' leaf (b.put key item) (e.put key v) (new ∪ rest) := by
  induction b generalizing e used with
  | nil =>
    cases h
    refine ⟨∅, ∅, (Set.union_self ∅).symm, Set.empty_disjoint _, .inl ⟨rfl, rfl, rfl⟩, ?_⟩
    exact fun _ _ hitem hapart => .cons hitem .nil hapart
  | cons binding b ih =>
    obtain ⟨k, first⟩ := binding
    obtain ⟨w, e, new, others, rfl, rfl, hfirst, hothers, hapart⟩ := h.exists_of_cons
    by_cases hsame : k.sameKey key = true
    · refine ⟨new, others, rfl, hapart, .inr ⟨first, w, ?_, ?_, hfirst⟩, ?_⟩
      · exact Bindings.get?_cons_of_same hsame
      · exact Bindings.get?_cons_of_same hsame
      · intro g' changed item v new hkeeps hunchanged hitem hnew
        unfold Bindings.put
        simp only [hsame, if_true]
        exact .cons hitem (hothers.keep hkeeps hunchanged) hnew
    · obtain ⟨old, rest, rfl, hrest, hbound, hput⟩ := ih hothers
      obtain ⟨hold, hnewRest⟩ := Set.disjoint_union_right.mp hapart
      have hother := Bool.eq_false_iff.mpr hsame
      refine ⟨old, new ∪ rest, Set.union_left_comm .., ?_, ?_, ?_⟩
      · exact Set.disjoint_union_right.mpr ⟨hold.symm, hrest⟩
      · rw [Bindings.get?_cons_of_other hother, Bindings.get?_cons_of_other hother]
        exact hbound
      · intro g' changed item v new' hkeeps hunchanged hitem hnew
        obtain ⟨hfirstKept, hrestKept⟩ := Set.disjoint_union_left.mp hunchanged
        obtain ⟨hnewFirst, hnewRest'⟩ := Set.disjoint_union_right.mp hnew
        unfold Bindings.put
        simp only [hother, Bool.false_eq_true, if_false]
        rw [Set.union_left_comm]
        refine .cons (hfirst.keep hkeeps hfirstKept) (hput hkeeps hrestKept hitem hnewRest') ?_
        exact Set.disjoint_union_right.mpr ⟨hnewFirst.symm, hnewRest⟩

/-- A key of a mapping, and a change of the graph that binds it anew: `old` are the mappings of what
it was bound to. -/
theorem UnfoldsTo.put (h : UnfoldsTo g leaf (.place n) (.mapping e) used) (key : Value) :
    ∃ b old, g.get n = .mapping b ∧ old ⊆ used ∧ n ∈ used ∧ n ∉ old ∧
      (b.get? key = none ∧ e.get? key = none ∨
        ∃ item v, b.get? key = some item ∧ e.get? key = some v ∧ UnfoldsTo g leaf item v old) ∧
      ∀ {g' changed item v new}, g.Keeps g' changed → changed ∩ used ⊆ insert n old →
        g'.get n = .mapping (b.put key item) → UnfoldsTo g' leaf item v new →
        new ∩ used ⊆ old → ∃ used', UnfoldsTo g' leaf (.place n) (.mapping (e.put key v)) used' ∧
          used' ⊆ used ∪ new := by
  obtain ⟨_, b, inner, hitem, hget, hbelow, hfresh, rfl⟩ := h.exists_of_mapping
  cases hitem
  obtain ⟨old, rest, rfl, hapart, hbound, hput⟩ := hbelow.split key
  obtain ⟨hn, hn'⟩ := not_or.mp hfresh
  refine ⟨b, old, hget, ?_, Set.mem_insert _ _, hn, ?_, ?_⟩
  · exact Set.subset_union_left.trans (Set.subset_insert _ _)
  · exact hbound.imp (fun ⟨hb, he, _⟩ => ⟨hb, he⟩) id
  · intro g' changed item v new hkeeps hchanged hget' hitem hnew
    have hrest : ∀ m ∈ rest, m ∈ insert n (old ∪ rest) := fun m hm => .inr (.inr hm)
    have hold : ∀ m ∈ rest, m ∉ old := fun m hm hm' => Set.disjoint_left.mp hapart hm' hm
    have hunchanged : Disjoint rest changed := Set.disjoint_left.mpr fun m hm hm' =>
      (hchanged ⟨hm', hrest m hm⟩).elim (fun hmn => hn' (hmn ▸ hm)) (hold m hm)
    have hnewRest : Disjoint new rest := Set.disjoint_left.mpr fun m hm hm' =>
      hold m hm' (hnew ⟨hm, hrest m hm'⟩)
    have hnew' : n ∉ new := fun hm => hn (hnew ⟨hm, Set.mem_insert _ _⟩)
    have hfresh' : n ∉ new ∪ rest := not_or.mpr ⟨hnew', hn'⟩
    refine ⟨_, .mapping hget' (hput hkeeps hunchanged hitem hnewRest) hfresh', ?_⟩
    rintro m (rfl | hm | hm)
    · exact .inl (Set.mem_insert _ _)
    · exact .inr hm
    · exact .inl (hrest m hm)

/-- What a key of a mapping is bound to in the graph is what it is bound to in the tree. -/
theorem UnfoldsTo.get? (h : UnfoldsTo g leaf (.place n) (.mapping e) used) (key : Value) :
    (g.bindings n).get? key = none ∧ e.get? key = none ∨
      ∃ item v old, (g.bindings n).get? key = some item ∧ e.get? key = some v ∧
        UnfoldsTo g leaf item v old ∧ old ⊆ used := by
  obtain ⟨b, old, hget, hold, -, -, hbound, -⟩ := h.put key
  rw [bindings_of_get hget]
  exact hbound.imp id fun ⟨item, v, hb, he, hitem⟩ => ⟨item, v, old, hb, he, hitem, hold⟩

/-! ## Changes of a mapping -/

/-- A change of a graph after which the mapping at a place stands for some entries. What is changed
and what the mapping stands for afterwards are mappings of `own`. -/
structure Becomes (leaf : Item → Value) (g : Graph) (n : Nat) (own : Set Nat) (g' : Graph)
    (e : Entries) : Prop where
  unfolds : ∃ used ⊆ own, UnfoldsTo g' leaf (.place n) (.mapping e) used
  keeps : g.Keeps g' own

namespace Becomes

variable {own own' : Set Nat} {sub e' : Entries}

theorem refl (h : UnfoldsTo g leaf (.place n) (.mapping e) used) : Becomes leaf g n used g e :=
  ⟨⟨used, subset_rfl, h⟩, .refl g used⟩

theorem mono (h : Becomes leaf g n own g' e) (hsub : own ⊆ own') : Becomes leaf g n own' g' e :=
  ⟨h.unfolds.imp fun _ hused => ⟨hused.1.trans hsub, hused.2⟩, h.keeps.mono hsub⟩

theorem trans (h : g.Keeps g' own) (h' : Becomes leaf g' n own' g'' e) (hsub : own' ⊆ own) :
    Becomes leaf g n own g'' e :=
  ⟨(h'.mono hsub).unfolds, h.trans h'.keeps fun _ hm => .inl (hsub hm)⟩

/-- A key is bound to an item. -/
theorem bind (h : UnfoldsTo g leaf (.place n) (.mapping e) used)
    (hitem : UnfoldsTo g leaf item v new) (hapart : Disjoint new used) :
    Becomes leaf g n (used ∪ new) (g.bind n key item) (e.put key v) := by
  obtain ⟨b, old, hget, -, hn, -, -, hput⟩ := h.put key
  have hbind : g.bind n key item = g.set n (.mapping (b.put key item)) := by
    rw [Graph.bind, bindings_of_get hget]
  have hkeeps : g.Keeps (g.bind n key item) {n} := hbind ▸ .set hget
  have hget' : (g.bind n key item).get n = .mapping (b.put key item) := by
    rw [hbind, get_set_self (lt_of_get_mapping hget)]
  have hitem' : UnfoldsTo (g.bind n key item) leaf item v new :=
    hitem.keep hkeeps (Set.disjoint_singleton_right.mpr fun hn' =>
      Set.disjoint_left.mp hapart hn' hn)
  obtain ⟨used', hused', hsub⟩ := hput hkeeps
    (Set.inter_subset_left.trans (Set.singleton_subset_iff.mpr (Set.mem_insert _ _))) hget' hitem'
    (hapart.inter_eq ▸ Set.empty_subset _)
  refine ⟨⟨used', hsub, hused'⟩, hkeeps.mono ?_⟩
  exact Set.singleton_subset_iff.mpr (.inl hn)

/-- A key leads to a mapping, and that is changed. -/
theorem within (h : UnfoldsTo g leaf (.place n) (.mapping e) used)
    (hm : g.mappingUnder? n key = some m) :
    ∃ sub old, e.get? key = some (.mapping sub) ∧ old ⊆ used ∧
      UnfoldsTo g leaf (.place m) (.mapping sub) old ∧
      ∀ {own g' sub'}, Becomes leaf g m own g' sub' → own ∩ used ⊆ old →
        Becomes leaf g n (used ∪ own) g' (e.put key (.mapping sub')) := by
  obtain ⟨b, old, hget, hold, hn, hn', hbound, hput⟩ := h.put key
  rw [mappingUnder?, bindings_of_get hget, Option.bind_eq_some_iff] at hm
  obtain ⟨item, hb, hm⟩ := hm
  obtain ⟨hnone, -⟩ | ⟨item', v, hb', he, hitem⟩ := hbound
  · rw [hb] at hnone
    cases hnone
  obtain rfl := Option.some.inj (hb.symm.trans hb')
  obtain ⟨rfl, sub, rfl⟩ := hitem.exists_of_mappingAt? hm
  refine ⟨sub, old, he, hold, hitem, fun {own g' sub'} hbecomes happart => ?_⟩
  obtain ⟨⟨new, hnew, hitem'⟩, hkeeps⟩ := hbecomes
  have hget' : g'.get n = .mapping (b.put key (.place m)) := by
    rw [Bindings.put_of_get?_eq_some hb, ← hget]
    exact hkeeps.get n (lt_of_get_mapping hget) fun hown => hn' (happart ⟨hown, hn⟩)
  obtain ⟨used', hused', hsub⟩ := hput hkeeps (happart.trans (Set.subset_insert _ _)) hget' hitem'
    ((Set.inter_subset_inter_left _ hnew).trans happart)
  exact ⟨⟨used', hsub.trans (Set.union_subset_union_right _ hnew), hused'⟩,
    hkeeps.mono Set.subset_union_right⟩

end Becomes

/-- A key that leads to no mapping in the graph leads to none in the tree. -/
theorem UnfoldsTo.get?_ne_mapping (h : UnfoldsTo g leaf (.place n) (.mapping e) used)
    (hno : g.mappingUnder? n key = none) (sub : Entries) :
    e.get? key ≠ some (.mapping sub) := by
  intro he
  obtain ⟨-, hnone⟩ | ⟨item, v, old, hb, hv, hitem, -⟩ := h.get? key
  · rw [he] at hnone
    cases hnone
  · rw [mappingUnder?, hb, Option.bind_some] at hno
    obtain rfl := Option.some.inj (he.symm.trans hv)
    have hmapping := hitem.isSome_mappingAt?
    rw [hno] at hmapping
    cases hmapping

/-! ## Paths -/

/-- The item that keys lead to, one after the other. -/
def at? (g : Graph) : Item → List Value → Option Item
  | item, [] => some item
  | item, key :: path => (g.mappingAt? item).bind fun n =>
      ((g.bindings n).get? key).bind fun item => g.at? item path

/-- Keys lead on in the graph as they do in the tree. -/
theorem UnfoldsTo.at? (h : UnfoldsTo g leaf item v used) (path : List Value) :
    g.at? item path = none ∧ v.at? path = none ∨
      ∃ item' v' used', g.at? item path = some item' ∧ v.at? path = some v' ∧
        UnfoldsTo g leaf item' v' used' ∧ used' ⊆ used := by
  induction path generalizing item v used with
  | nil => exact .inr ⟨item, v, used, rfl, Value.at?_nil v, h, subset_rfl⟩
  | cons key path ih =>
    unfold Graph.at?
    cases h with
    | leaf hno hplace hleaf =>
      rw [hno]
      exact .inl ⟨rfl, Value.at?_cons_of_isMapping_eq_false hleaf⟩
    | mapping hget hbelow hfresh =>
      rw [mappingAt?_of_get hget, Option.bind_some, bindings_of_get hget]
      obtain ⟨old, rest, rfl, -, ⟨hb, he, -⟩ | ⟨item, w, hb, he, hitem⟩, -⟩ := hbelow.split key
      · rw [hb]
        exact .inl ⟨rfl, congrArg (Option.bind · _) he⟩
      · rw [hb, Option.bind_some]
        have hat : ∀ x, w.at? path = x → (Value.mapping _).at? (key :: path) = x := fun x hx =>
          (congrArg (Option.bind · _) he).trans hx
        refine (ih hitem).imp (fun ⟨hg, hv⟩ => ⟨hg, hat _ hv⟩) ?_
        rintro ⟨item', v', used', hg, hv, hitem', hsub⟩
        refine ⟨item', v', used', hg, hat _ hv, hitem', hsub.trans ?_⟩
        exact Set.subset_union_left.trans (Set.subset_insert _ _)

/-- What is at a path that goes on is at the rest of it in what is at its beginning. -/
theorem at?_append (g : Graph) (item : Item) (path path' : List Value) :
    g.at? item (path ++ path') = (g.at? item path).bind fun other => g.at? other path' := by
  induction path generalizing item with
  | nil => rfl
  | cons key path ih =>
    simp only [List.cons_append, Graph.at?, ih, Option.bind_assoc]

theorem UnfoldsTo.exists_of_at? {path : List Value} (h : UnfoldsTo g leaf item v used)
    {w : Value} (hw : v.at? path = some w) :
    ∃ other used', g.at? item path = some other ∧ UnfoldsTo g leaf other w used' := by
  obtain ⟨-, hnone⟩ | ⟨other, w', used', hother, hw', hunfolds, -⟩ := h.at? path
  · rw [hw] at hnone
    cases hnone
  · obtain rfl := Option.some.inj (hw.symm.trans hw')
    exact ⟨other, used', hother, hunfolds⟩

theorem UnfoldsTo.at?_eq_none {path : List Value} (h : UnfoldsTo g leaf item v used)
    (hnone : v.at? path = none) : g.at? item path = none := by
  obtain ⟨hnone', -⟩ | ⟨_, w, _, -, hw, -⟩ := h.at? path
  · exact hnone'
  · rw [hnone] at hw
    cases hw

end RoleSchema.Graph
