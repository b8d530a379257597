import RoleSchema.Data.Graph.Merge
import RoleSchema.Proofs.Data.Unshared

/-!
# Merging in graphs and in trees

In a graph a mapping is merged into another one where it is: the keys of the second are bound in the
first, and in mappings within it. Where the two stand for trees and have no mapping in common, this
comes to what merging the trees comes to. The second mapping does not change while it is read, so
that the merge is never stopped for its having grown.

* `MergesTo`: what a merge in a graph has come to, against the trees.
* `GraphMerge.follows`: reading on in a mapping follows the recursion of merging trees.
* `exists_mergesTo`: merging does in a graph what it does with trees.
-/

namespace RoleSchema

open RoleSchema.Graph (Becomes Unfolds UnfoldsTo)

/-- What merging into the mapping at a place has come to, where merging the trees comes to `tree`.
What is changed, and what the mapping stands for afterwards, are mappings of `own`. -/
structure MergesTo (leaf : Item → Value) (g : Graph) (base : Nat) (own : Set Nat) (m : GraphMerge)
    (tree : Merge) : Prop where
  /-- The mapping that is read has not grown. -/
  unresized : m.fault ≠ some .resized
  /-- A key that is no text stops both merges. -/
  stopped : ∀ key, m.fault = some (.keyNotText key) → tree.stopped = some key
  finished : m.fault = none →
    tree.stopped = none ∧ Becomes leaf g base own m.graph tree.entries

namespace MergesTo

variable {leaf : Item → Value} {g g' : Graph} {base layer : Nat} {own own' : Set Nat}
  {m : GraphMerge} {tree : Merge} {fault : MergeFault} {e : Entries}

theorem mono (h : MergesTo leaf g base own m tree) (hsub : own ⊆ own') :
    MergesTo leaf g base own' m tree where
  unresized := h.unresized
  stopped := h.stopped
  finished hnone := ⟨(h.finished hnone).1, (h.finished hnone).2.mono hsub⟩

/-- Nothing but the number of steps, their depth or an item that cannot be told of may stop one
merge only. -/
theorem of_fault (h : m.fault = some fault) (hresized : fault ≠ .resized)
    (hstopped : ∀ key, fault = .keyNotText key → tree.stopped = some key) :
    MergesTo leaf g base own m tree where
  unresized hm := hresized (Option.some.inj (h.symm.trans hm))
  stopped key hm := hstopped key (Option.some.inj (h.symm.trans hm))
  finished hnone := absurd (h.symm.trans hnone) (Option.some_ne_none fault)

/-- A merge that goes on after a change. -/
theorem trans (hkeeps : g.Keeps g' own) (h : MergesTo leaf g' base own' m tree)
    (hsub : own' ⊆ own) : MergesTo leaf g base own m tree where
  unresized := h.unresized
  stopped := h.stopped
  finished hnone := ⟨(h.finished hnone).1, .trans hkeeps (h.finished hnone).2 hsub⟩

/-- Only what has been bound tells apart two trees to which a merge comes. -/
theorem congr {tree' : Merge} (h : MergesTo leaf g base own m tree)
    (hentries : tree'.entries = tree.entries) (hstopped : tree'.stopped = tree.stopped) :
    MergesTo leaf g base own m tree' where
  unresized := h.unresized
  stopped key hm := hstopped ▸ h.stopped key hm
  finished hnone := by
    rw [hentries, hstopped]
    exact h.finished hnone

end MergesTo

namespace GraphMerge

variable {leaf : Item → Value} {fuel depth base layer index n : Nat} {m m' : GraphMerge}
  {e e' sub : Entries} {used unread new : Set Nat} {b : Bindings Item} {key v : Value} {item : Item}

/-! ## Reading -/

/-- A mapping with bindings `b` is merged into another one and has been read up to an index. What is
to come stands for `e'`, and the mapping that is merged into for `e`; they have no mapping in
common. -/
structure Reads (leaf : Item → Value) (m : GraphMerge) (base layer index : Nat) (b : Bindings Item)
    (e e' : Entries) (used unread : Set Nat) : Prop where
  going : m.fault = none
  target : UnfoldsTo m.graph leaf (.place base) (.mapping e) used
  get : m.graph.get layer = .mapping b
  rest : Unfolds m.graph leaf (b.drop index) e' unread
  apart : Disjoint used unread
  outside : layer ∉ used ∪ unread

/-- Merging from an index on comes to what merging trees comes to, in whatever graphs they are and
however many steps there are. -/
def Follows (leaf : Item → Value) (e e' : Entries) : Prop :=
  ∀ {fuel depth base layer index : Nat} {m : GraphMerge} {b : Bindings Item}
    {used unread : Set Nat}, Reads leaf m base layer index b e e' used unread →
    MergesTo leaf m.graph base (used ∪ unread)
      (mergeFrom fuel depth base layer index b.length m) (e.merge e')

/-- A mapping is merged from its first entry on. -/
theorem Follows.within (h : Follows leaf e e') (hgoing : m.fault = none)
    (hbase : UnfoldsTo m.graph leaf (.place base) (.mapping e) used)
    (hlayer : UnfoldsTo m.graph leaf (.place layer) (.mapping e') unread)
    (hapart : Disjoint used unread) :
    MergesTo leaf m.graph base (used ∪ unread) (mergeWithin fuel depth base layer m)
      (e.merge e') := by
  cases fuel with
  | zero =>
    unfold mergeWithin
    exact .of_fault rfl nofun nofun
  | succ fuel =>
    unfold mergeWithin
    split
    · exact .of_fault rfl nofun nofun
    · obtain ⟨_, b, inner, hitem, hget, hbelow, hfresh, rfl⟩ := hlayer.exists_of_mapping
      cases hitem
      obtain ⟨hno, hinner⟩ := Set.disjoint_insert_right.mp hapart
      have hreads : Reads leaf m base layer 0 b e e' used inner :=
        ⟨hgoing, hbase, hget, hbelow, hinner, not_or.mpr ⟨hno, hfresh⟩⟩
      rw [Graph.bindings_of_get hget]
      exact (h hreads).mono (Set.union_subset_union_right _ (Set.subset_insert _ _))

/-- The next entry. After a change of the mapping that is merged into, in which the mappings of the
entry may have come to it, reading goes on: what is to come is as it was. -/
theorem Reads.next (h : Reads leaf m base layer index b e ((key, v) :: e') used unread) :
    ∃ item new, b[index]? = some (key, item) ∧ UnfoldsTo m.graph leaf item v new ∧
      Disjoint new used ∧ new ⊆ unread ∧
      ∀ {fuel depth : Nat} {m' : GraphMerge} {sub : Entries}, Follows leaf sub e' →
        m'.fault = none → Becomes leaf m.graph base (used ∪ new) m'.graph sub →
        MergesTo leaf m.graph base (used ∪ unread)
          (mergeFrom fuel depth base layer (index + 1) b.length m') (sub.merge e') := by
  obtain ⟨-, -, hget, hrest, hapart, houtside⟩ := h
  cases hentry : b[index]? with
  | none =>
    rw [List.drop_eq_nil_of_le (List.getElem?_eq_none_iff.mp hentry)] at hrest
    cases hrest
  | some entry =>
    rw [List.drop_eq_getElem?_toList_append, hentry] at hrest
    obtain ⟨_, _, new, rest, heq, rfl, hitem, hrest, hnew⟩ := hrest.exists_of_cons
    cases heq
    obtain ⟨hnewUsed, hrestUsed⟩ := Set.disjoint_union_right.mp hapart
    obtain ⟨hno, hno'⟩ := not_or.mp (Set.union_assoc used new rest ▸ houtside)
    have hunread : Disjoint (used ∪ new) rest := Set.disjoint_union_left.mpr ⟨hrestUsed, hnew⟩
    refine ⟨entry.2, new, rfl, hitem, hnewUsed.symm, Set.subset_union_left, ?_⟩
    intro fuel depth m' sub hfollows hgoing hbecomes
    obtain ⟨⟨used', hused', htarget⟩, hkeeps⟩ := hbecomes
    have hreads : Reads leaf m' base layer (index + 1) b sub e' used' rest := {
      going := hgoing
      target := htarget
      get := by rw [hkeeps.get layer (Graph.lt_of_get_mapping hget) hno, hget]
      rest := hrest.keep hkeeps hunread.symm
      apart := hunread.mono_left hused'
      outside := not_or.mpr ⟨fun hmem => hno (hused' hmem), hno'⟩ }
    rw [← Set.union_assoc]
    exact .trans (hkeeps.mono Set.subset_union_left) (hfollows hreads)
      (Set.union_subset_union_left _ hused')

/-! ## One entry -/

theorem mergeFrom_of_not_isText (hget : m.graph.get layer = .mapping b)
    (hentry : b[index]? = some (key, item)) (hkey : key.isText = false) :
    mergeFrom (fuel + 1) depth base layer index b.length m = m.stop (.keyNotText key) := by
  unfold mergeFrom
  simp [Graph.bindings_of_get hget, hentry, hkey]

theorem mergeFrom_of_isRemark (hget : m.graph.get layer = .mapping b)
    (hentry : b[index]? = some (key, item)) (hremark : key.isRemark = true) :
    mergeFrom (fuel + 1) depth base layer index b.length m =
      mergeFrom fuel depth base layer (index + 1) b.length m := by
  rw [mergeFrom]
  simp [Graph.bindings_of_get hget, hentry, hremark, Value.isText_of_isRemark hremark]

theorem mergeFrom_of_within {inner below : Nat} (hget : m.graph.get layer = .mapping b)
    (hentry : b[index]? = some (key, item)) (hkey : key.isText = true)
    (hremark : key.isRemark = false)
    (hinner : m.graph.mappingUnder? base key = some inner)
    (hbelow : m.graph.mappingAt? item = some below) :
    mergeFrom (fuel + 1) depth base layer index b.length m =
      if (mergeWithin fuel (depth + 1) inner below m).fault.isSome = true then
        mergeWithin fuel (depth + 1) inner below m
      else mergeFrom fuel depth base layer (index + 1) b.length
        (mergeWithin fuel (depth + 1) inner below m) := by
  unfold Graph.mappingUnder? at hinner
  rw [mergeFrom]
  simp [Graph.bindings_of_get hget, hentry, hkey, hremark, hinner, hbelow]

theorem mergeFrom_of_bind (hget : m.graph.get layer = .mapping b)
    (hentry : b[index]? = some (key, item)) (hkey : key.isText = true)
    (hremark : key.isRemark = false)
    (hno : m.graph.mappingUnder? base key = none ∨ m.graph.mappingAt? item = none) :
    mergeFrom (fuel + 1) depth base layer index b.length m =
      if (m.bind base key item).fault.isSome = true then m.bind base key item
      else mergeFrom fuel depth base layer (index + 1) b.length (m.bind base key item) := by
  unfold Graph.mappingUnder? at hno
  rw [mergeFrom]
  rcases hno with hno | hno <;>
    simp [Graph.bindings_of_get hget, hentry, hkey, hremark, hno]

theorem graph_bind (m : GraphMerge) (base : Nat) (key : Value) (item : Item) :
    (m.bind base key item).graph = m.graph.bind base key item := by
  unfold GraphMerge.bind
  dsimp only
  split <;> rfl

theorem fault_bind (m : GraphMerge) (base : Nat) (key : Value) (item : Item) :
    (m.bind base key item).fault = m.fault ∨
      (m.bind base key item).fault = some .unshowable := by
  unfold GraphMerge.bind
  dsimp only
  split
  · exact .inl rfl
  · exact .inr rfl

/-! ## All entries -/

theorem merge_of_mapping {layer : Entries} (hkey : key.isText = true)
    (hremark : key.isRemark = false) (hsub : e.get? key = some (.mapping sub)) :
    e.merge ((key, .mapping layer) :: e') =
      if (sub.merge layer).stopped.isSome = true then
        ⟨e.put key (.mapping (sub.merge layer).entries), (sub.merge layer).bound,
          (sub.merge layer).stopped⟩
      else
        let others := Entries.merge (e.put key (.mapping (sub.merge layer).entries)) e'
        ⟨others.entries, (sub.merge layer).bound ++ others.bound, others.stopped⟩ := by
  rw [Entries.merge.eq_def]
  simp [hkey, hremark, hsub]

theorem merge_of_put (hkey : key.isText = true) (hremark : key.isRemark = false)
    (hnot : ∀ sub layer, e.get? key = some (.mapping sub) → v ≠ .mapping layer) :
    e.merge ((key, v) :: e') =
      let others := Entries.merge (e.put key v) e'
      ⟨others.entries, (key, v) :: others.bound, others.stopped⟩ := by
  rw [Entries.merge]
  · simp [hkey, hremark]
  · exact hnot

/-- Without steps a merge is given up. -/
theorem follows_of_succ (h : ∀ {fuel depth base layer index : Nat} {m : GraphMerge}
    {b : Bindings Item} {used unread : Set Nat}, Reads leaf m base layer index b e e' used unread →
    MergesTo leaf m.graph base (used ∪ unread)
      (mergeFrom (fuel + 1) depth base layer index b.length m) (e.merge e')) :
    Follows leaf e e' := by
  intro fuel depth base layer index m b used unread hreads
  cases fuel with
  | zero =>
    unfold mergeFrom
    exact .of_fault rfl nofun nofun
  | succ fuel => exact h hreads

theorem follows_nil (e : Entries) : Follows leaf e [] := by
  refine follows_of_succ fun {fuel depth base layer index m b used unread} hreads => ?_
  have hend : b[index]? = none := by
    rw [← List.head?_drop]
    cases hdrop : b.drop index with
    | nil => rfl
    | cons x rest => cases hdrop ▸ hreads.rest
  have hmerge : mergeFrom (fuel + 1) depth base layer index b.length m = m := by
    unfold mergeFrom
    simp [Graph.bindings_of_get hreads.get, hend]
  rw [hmerge, Entries.merge]
  refine ⟨fun hfault => ?_, fun key hfault => ?_, fun _ => ⟨rfl, ?_⟩⟩
  · rw [hreads.going] at hfault
    cases hfault
  · rw [hreads.going] at hfault
    cases hfault
  · exact (Becomes.refl hreads.target).mono Set.subset_union_left

theorem follows_of_not_isText (hkey : key.isText = false) : Follows leaf e ((key, v) :: e') := by
  refine follows_of_succ fun hreads => ?_
  obtain ⟨item, new, hentry, -⟩ := hreads.next
  rw [mergeFrom_of_not_isText hreads.get hentry hkey]
  refine .of_fault rfl nofun fun key' hkey' => ?_
  cases hkey'
  rw [Entries.merge.eq_def]
  simp [hkey]

theorem follows_of_isRemark (hremark : key.isRemark = true) (ih : Follows leaf e e') :
    Follows leaf e ((key, v) :: e') := by
  refine follows_of_succ fun hreads => ?_
  obtain ⟨item, new, hentry, -, -, -, hnext⟩ := hreads.next
  have htree : e.merge ((key, v) :: e') = e.merge e' := by
    rw [Entries.merge.eq_def]
    simp [Value.isText_of_isRemark hremark, hremark]
  rw [mergeFrom_of_isRemark hreads.get hentry hremark, htree]
  exact hnext ih hreads.going ((Becomes.refl hreads.target).mono Set.subset_union_left)

/-- A key that is not bound to mappings in both is bound to the item in the graph. -/
theorem follows_of_put (hkey : key.isText = true) (hremark : key.isRemark = false)
    (hnot : ∀ sub layer, e.get? key = some (.mapping sub) → v ≠ .mapping layer)
    (ih : Follows leaf (e.put key v) e') : Follows leaf e ((key, v) :: e') := by
  refine follows_of_succ fun {fuel depth base layer index m b used unread} hreads => ?_
  obtain ⟨item, new, hentry, hitem, hapart, -, hnext⟩ := hreads.next
  have hno : m.graph.mappingUnder? base key = none ∨ m.graph.mappingAt? item = none := by
    by_contra hboth
    obtain ⟨hinner, hbelow⟩ := not_or.mp hboth
    obtain ⟨inner, hinner⟩ := Option.ne_none_iff_exists'.mp hinner
    obtain ⟨below, hbelow⟩ := Option.ne_none_iff_exists'.mp hbelow
    obtain ⟨sub, old, he, -⟩ := Becomes.within hreads.target hinner
    obtain ⟨-, layer, hv⟩ := hitem.exists_of_mappingAt? hbelow
    exact hnot sub layer he hv
  have hbound : Becomes leaf m.graph base (used ∪ new) (m.bind base key item).graph
      (e.put key v) := by
    rw [graph_bind]
    exact .bind hreads.target hitem hapart
  rw [mergeFrom_of_bind hreads.get hentry hkey hremark hno]
  rcases fault_bind m base key item with hfault | hfault
  · have hgoing := hfault.trans hreads.going
    rw [hgoing]
    exact (hnext ih hgoing hbound).congr (by rw [merge_of_put hkey hremark hnot])
      (by rw [merge_of_put hkey hremark hnot])
  · rw [hfault]
    exact .of_fault hfault nofun nofun

/-- Where a key is bound to mappings in both, these are merged. -/
theorem follows_of_within {layer : Entries} (hkey : key.isText = true)
    (hremark : key.isRemark = false) (hsub : e.get? key = some (.mapping sub))
    (hinner : Follows leaf sub layer)
    (ih : (sub.merge layer).stopped = none →
      Follows leaf (e.put key (.mapping (sub.merge layer).entries)) e') :
    Follows leaf e ((key, .mapping layer) :: e') := by
  refine follows_of_succ fun {fuel depth base place index m b used unread} hreads => ?_
  obtain ⟨item, new, hentry, hitem, hapart, -, hnext⟩ := hreads.next
  obtain ⟨below, c, -, hplace, hc, -⟩ := hitem.exists_of_mapping
  have hbelow : m.graph.mappingAt? item = some below := hplace ▸ Graph.mappingAt?_of_get hc
  cases hm : m.graph.mappingUnder? base key with
  | none => exact absurd hsub (hreads.target.get?_ne_mapping hm sub)
  | some inner =>
    obtain ⟨sub', old, hsub', hold, hunfolds, hwithin⟩ := Becomes.within hreads.target hm
    cases hsub.symm.trans hsub'
    have hmerges : MergesTo leaf m.graph inner (old ∪ new)
        (mergeWithin fuel (depth + 1) inner below m) (sub.merge layer) :=
      hinner.within hreads.going hunfolds (hplace ▸ hitem) (hapart.symm.mono_left hold)
    rw [mergeFrom_of_within hreads.get hentry hkey hremark hm hbelow,
      merge_of_mapping hkey hremark hsub]
    cases hfault : (mergeWithin fuel (depth + 1) inner below m).fault with
    | some fault =>
      simp only [Option.isSome_some, if_true]
      refine .of_fault hfault (fun h => hmerges.unresized (h ▸ hfault)) fun key' hkey' => ?_
      have hstopped := hmerges.stopped key' (hkey' ▸ hfault)
      simp [hstopped]
    | none =>
      obtain ⟨hstopped, hbecomes⟩ := hmerges.finished hfault
      have happart : (old ∪ new) ∩ used ⊆ old := fun k ⟨hk, hused⟩ =>
        hk.elim id fun hnew => absurd hused (Set.disjoint_left.mp hapart hnew)
      have hown : used ∪ (old ∪ new) ⊆ used ∪ new :=
        Set.union_subset Set.subset_union_left (Set.union_subset_union_left _ hold)
      have htarget := (hwithin hbecomes happart).mono hown
      simp only [hstopped, Option.isSome_none, Bool.false_eq_true, if_false]
      exact (hnext (ih hstopped) hfault htarget).congr rfl rfl

/-- Merging from an index on follows the recursion of merging trees. -/
theorem follows (e e' : Entries) : Follows leaf e e' := by
  fun_induction Entries.merge e e' with
  | case1 e => exact follows_nil e
  | case2 e key v rest hkey => exact follows_of_not_isText (by simpa using hkey)
  | case3 e key v rest hkey hremark ih => exact follows_of_isRemark hremark ih
  | case4 e key rest hkey hremark sub layer hsub inner base' =>
    next hstopped ih =>
      -- the inner merge has been stopped, so nothing is said of what comes after it
      refine follows_of_within (by simpa using hkey) (by simpa using hremark) hsub ih ?_
      intro hnone
      have hgoes : inner.stopped = none := hnone
      rw [hgoes] at hstopped
      cases hstopped
  | case5 e key rest hkey hremark sub layer hsub inner base' hgoes =>
    next hinner ih =>
      exact follows_of_within (by simpa using hkey) (by simpa using hremark) hsub hinner fun _ => ih
  | case6 e key v rest hkey hremark hnot ih =>
    exact follows_of_put (by simpa using hkey) (by simpa using hremark) hnot ih

end GraphMerge

section

variable {leaf : Item → Value} {g : Graph} {base layer : Nat} {e e' : Entries}
  {used unread : Set Nat} {b c : Bindings Item}

/-- Merging does in a graph what it does with trees. -/
theorem mergesTo_merge (hbase : UnfoldsTo g leaf (.place base) (.mapping e) used)
    (hlayer : UnfoldsTo g leaf (.place layer) (.mapping e') unread)
    (hapart : Disjoint used unread) :
    MergesTo leaf g base (used ∪ unread) (g.merge base layer) (e.merge e') :=
  GraphMerge.Follows.within (GraphMerge.follows e e') (m := { graph := g }) rfl hbase hlayer hapart

/-- **Merging where no mapping stands in two places** comes to what merging trees comes to: neither
within one of the two mappings, nor in both of them. -/
theorem exists_mergesTo (hleaf : ∀ item, (leaf item).isMapping = false)
    (hb : g.get base = .mapping b) (hc : g.get layer = .mapping c)
    (hbase : g.Unshared (.place base)) (hlayer : g.Unshared (.place layer))
    (hapart : ∀ ps qs n, g.Leads (.place base) ps n → ¬ g.Leads (.place layer) qs n) :
    ∃ (e e' : Entries) (used unread : Set Nat),
      UnfoldsTo g leaf (.place base) (.mapping e) used ∧
      UnfoldsTo g leaf (.place layer) (.mapping e') unread ∧
      MergesTo leaf g base (used ∪ unread) (g.merge base layer) (e.merge e') := by
  obtain ⟨e, used, hunfolds, hused⟩ := hbase.exists_unfoldsTo hleaf hb
  obtain ⟨e', unread, hunfolds', hunread⟩ := hlayer.exists_unfoldsTo hleaf hc
  refine ⟨e, e', used, unread, hunfolds, hunfolds', mergesTo_merge hunfolds hunfolds' ?_⟩
  refine Set.disjoint_left.mpr fun n hn hn' => ?_
  obtain ⟨ps, hps⟩ := hused n hn
  obtain ⟨qs, hqs⟩ := hunread n hn'
  exact hapart ps qs n hps hqs

end

end RoleSchema
