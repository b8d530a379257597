import Mathlib.Data.Fintype.EquivFin
import RoleSchema.Proofs.Data.Unfolding

/-!
# Graphs in which no mapping stands in two places

The positions of items lead from one collection to what it holds. A mapping stands in two places of
a graph if two lists of positions lead to it. Where no mapping does, those that keys lead to are not
within themselves, and there are finitely many places; so the graph can be unfolded.

* `Graph.follow`: what positions lead to.
* `Graph.Unshared`: no mapping stands in two places.
* `Graph.Unshared.exists_unfoldsTo`: such a graph stands for a tree.
* `Graph.Alike`: graphs that hold the same.
-/

namespace RoleSchema.Graph

variable {g g' g'' : Graph} {leaf : Item → Value} {item other : Item} {ps qs : List Nat}
  {i m n : Nat} {b rest : Bindings Item}

/-! ## Positions -/

/-- The item that positions lead to, each one in the collection that the one before leads to. -/
def follow (g : Graph) : Item → List Nat → Option Item
  | item, [] => some item
  | .value _, _ :: _ => none
  | .place n, i :: ps => (g.get n).items[i]?.bind fun item => g.follow item ps

@[simp] theorem follow_nil (g : Graph) (item : Item) : g.follow item [] = some item := by
  cases item <;> rfl

theorem follow_append (g : Graph) (item : Item) (ps qs : List Nat) :
    g.follow item (ps ++ qs) = (g.follow item ps).bind fun other => g.follow other qs := by
  induction ps generalizing item with
  | nil => rw [List.nil_append, follow_nil, Option.bind_some]
  | cons i ps ih =>
    cases item with
    | value v => rfl
    | place n => exact (Option.bind_congr fun x _ => ih x).trans (Option.bind_assoc ..).symm

theorem follow_append_of_eq_some (h : g.follow item ps = some other) (qs : List Nat) :
    g.follow item (ps ++ qs) = g.follow other qs := by
  rw [follow_append, h, Option.bind_some]

/-- A position of a mapping is that of one of its bindings. -/
theorem follow_cons_of_mapping (hget : g.get n = .mapping b) (i : Nat) (ps : List Nat) :
    g.follow (.place n) (i :: ps) = b[i]?.bind fun x => g.follow x.2 ps := by
  show (g.get n).items[i]?.bind _ = _
  rw [hget, Collection.items, List.getElem?_map, Option.bind_map]
  rfl

/-- Positions lead to the mapping at a place, and to nothing but mappings on the way. -/
inductive Leads (g : Graph) : Item → List Nat → Nat → Prop
  | here {n : Nat} {b : Bindings Item} (hget : g.get n = .mapping b) : Leads g (.place n) [] n
  | there {n m i : Nat} {b : Bindings Item} {k : Value} {item : Item} {ps : List Nat}
      (hget : g.get n = .mapping b) (hi : b[i]? = some (k, item)) (h : Leads g item ps m) :
      Leads g (.place n) (i :: ps) m

namespace Leads

theorem follow (h : g.Leads item ps m) : g.follow item ps = some (.place m) := by
  induction h with
  | here => rfl
  | there hget hi h ih => rw [follow_cons_of_mapping hget, hi, Option.bind_some, ih]

theorem get_mapping (h : g.Leads item ps m) : ∃ b, g.get m = .mapping b := by
  induction h with
  | here hget => exact ⟨_, hget⟩
  | there _ _ _ ih => exact ih

theorem append (h : g.Leads item ps m) (h' : g.Leads (.place m) qs n) :
    g.Leads item (ps ++ qs) n := by
  induction h with
  | here => exact h'
  | there hget hi _ ih => exact .there hget hi (ih h')

/-- On the way there are mappings. -/
theorem exists_follow (h : g.Leads item ps m) (hqs : qs <+: ps) :
    ∃ n b, g.follow item qs = some (.place n) ∧ g.get n = .mapping b := by
  induction h generalizing qs with
  | here hget =>
    rw [List.prefix_nil.mp hqs]
    exact ⟨_, _, rfl, hget⟩
  | there hget hi _ ih =>
    cases qs with
    | nil => exact ⟨_, _, rfl, hget⟩
    | cons j qs =>
      obtain ⟨rfl, htail⟩ := List.cons_prefix_cons.mp hqs
      obtain ⟨n, b, hn, hb⟩ := ih htail
      exact ⟨n, b, by rw [follow_cons_of_mapping hget, hi, Option.bind_some, hn], hb⟩

end Leads

/-! ## Mappings in one place -/

/-- No mapping that keys lead to stands in a second place, and the places of collections are
there. -/
structure Unshared (g : Graph) (root : Item) : Prop where
  places : ∀ ps n, g.follow root ps = some (.place n) → n < g.places.size
  once : ∀ ps qs n, g.Leads root ps n → g.follow root qs = some (.place n) → ps = qs

namespace Unshared

theorem of_mem (h : g.Unshared (.place n)) (hget : g.get n = .mapping b) {x : Value × Item}
    (hx : x ∈ b) : g.Unshared x.2 := by
  obtain ⟨i, hi⟩ := List.mem_iff_getElem?.mp hx
  have hfollow : ∀ ps, g.follow (.place n) (i :: ps) = g.follow x.2 ps := fun ps => by
    rw [follow_cons_of_mapping hget, hi, Option.bind_some]
  exact ⟨fun ps m hm => h.places (i :: ps) m ((hfollow ps).trans hm),
    fun ps qs m hm hm' => (List.cons.inj
      (h.once (i :: ps) (i :: qs) m (.there hget hi hm) ((hfollow qs).trans hm'))).2⟩

/-- A mapping is within another one. -/
def Within (g : Graph) (m n : Fin g.places.size) : Prop :=
  g.Unshared (.place n) ∧ ∃ i ps, g.Leads (.place n) (i :: ps) m

instance : IsTrans (Fin g.places.size) (Within g) where
  trans := by
    rintro l m n ⟨-, i, ps, hl⟩ ⟨hn, j, qs, hm⟩
    exact ⟨hn, j, qs ++ i :: ps, hm.append hl⟩

instance : Std.Irrefl (Within g) where
  irrefl := by
    rintro n ⟨hn, i, ps, hlead⟩
    cases hn.once (i :: ps) [] n hlead rfl

/-- What the bindings of a mapping from one on stand for, given what their items stand for. -/
theorem exists_unfolds (h : g.Unshared (.place n)) (hget : g.get n = .mapping b) (i : Nat)
    (hrest : b.drop i = rest)
    (hitems : ∀ x ∈ rest, ∃ v used, UnfoldsTo g leaf x.2 v used ∧
      ∀ m ∈ used, ∃ ps, g.Leads x.2 ps m) :
    ∃ e used, Unfolds g leaf rest e used ∧
      ∀ m ∈ used, ∃ j ps, i ≤ j ∧ g.Leads (.place n) (j :: ps) m := by
  induction rest generalizing i with
  | nil => exact ⟨[], ∅, .nil, fun _ hm => absurd hm (Set.notMem_empty _)⟩
  | cons x rest ih =>
    obtain ⟨⟨v, new, hv, hnew⟩, hitems⟩ := List.forall_mem_cons.mp hitems
    have hi : b[i]? = some x := by
      rw [← List.head?_drop, hrest]
      rfl
    have hdrop : b.drop (i + 1) = rest := by
      rw [← List.tail_drop, hrest]
      rfl
    obtain ⟨e, used, he, hused⟩ := ih (i + 1) hdrop hitems
    have hnew' : ∀ m ∈ new, ∃ ps, g.Leads (.place n) (i :: ps) m := fun m hm =>
      (hnew m hm).imp fun ps hps => .there hget hi hps
    have hapart : Disjoint new used := by
      refine Set.disjoint_left.mpr fun m hm hm' => ?_
      obtain ⟨ps, hps⟩ := hnew' m hm
      obtain ⟨j, qs, hij, hqs⟩ := hused m hm'
      have hsame : i = j := (List.cons.inj (h.once (i :: ps) (j :: qs) m hps hqs.follow)).1
      omega
    refine ⟨(x.1, v) :: e, new ∪ used, .cons hv he hapart, ?_⟩
    rintro m (hm | hm)
    · obtain ⟨ps, hps⟩ := hnew' m hm
      exact ⟨i, ps, le_rfl, hps⟩
    · obtain ⟨j, ps, hij, hps⟩ := hused m hm
      exact ⟨j, ps, by omega, hps⟩

/-- What mappings on the way stand for, given what those within them stand for. -/
theorem exists_unfoldsTo_place (hleaf : ∀ item, (leaf item).isMapping = false)
    (n : Fin g.places.size) (h : g.Unshared (.place n)) (hget : g.get n = .mapping b) :
    ∃ e used, UnfoldsTo g leaf (.place n) (.mapping e) used ∧
      ∀ m ∈ used, ∃ ps, g.Leads (.place n) ps m := by
  have hwf : WellFounded (Within g) := Finite.wellFounded_of_trans_of_irrefl _
  induction n using hwf.induction generalizing b with
  | _ n ih =>
    have hitems : ∀ x ∈ b.drop 0, ∃ v used, UnfoldsTo g leaf x.2 v used ∧
        ∀ m ∈ used, ∃ ps, g.Leads x.2 ps m := by
      intro x hx
      have hitem := h.of_mem hget hx
      cases hmapping : g.mappingAt? x.2 with
      | none =>
        have hplace : ∀ m, x.2 = .place m → m < g.places.size := fun m hm =>
          hitem.places [] m (by rw [hm, follow_nil])
        exact ⟨_, ∅, .leaf hmapping hplace (hleaf x.2), fun _ hm => absurd hm (Set.notMem_empty _)⟩
      | some m =>
        obtain ⟨hm, below, hbelow⟩ := mappingAt?_eq_some_iff.mp hmapping
        obtain ⟨i, hi⟩ := List.mem_iff_getElem?.mp (hx : x ∈ b)
        rw [hm] at hitem ⊢
        have hwithin : Within g ⟨m, lt_of_get_mapping hbelow⟩ n :=
          ⟨h, i, [], .there hget hi (hm ▸ .here hbelow)⟩
        obtain ⟨e, used, he, hused⟩ := ih _ hwithin hitem hbelow
        exact ⟨.mapping e, used, he, hused⟩
    obtain ⟨e, used, he, hused⟩ := h.exists_unfolds hget 0 rfl hitems
    have hfresh : (n : Nat) ∉ used := fun hn => by
      obtain ⟨j, ps, -, hps⟩ := hused n hn
      cases h.once (j :: ps) [] n hps rfl
    refine ⟨e, _, .mapping hget he hfresh, ?_⟩
    rintro m (rfl | hm)
    · exact ⟨[], .here hget⟩
    · obtain ⟨j, ps, -, hps⟩ := hused m hm
      exact ⟨j :: ps, hps⟩

/-- **A mapping within which no mapping stands in two places stands for a tree.** -/
theorem exists_unfoldsTo (hleaf : ∀ item, (leaf item).isMapping = false)
    (h : g.Unshared (.place n)) (hget : g.get n = .mapping b) :
    ∃ e used, UnfoldsTo g leaf (.place n) (.mapping e) used ∧
      ∀ m ∈ used, ∃ ps, g.Leads (.place n) ps m :=
  exists_unfoldsTo_place hleaf ⟨n, lt_of_get_mapping hget⟩ h hget

end Unshared

/-! ## What two graphs hold -/

/-- The collections that positions lead to from an item are the same in two graphs. -/
def Agrees (g g' : Graph) (item : Item) : Prop :=
  ∀ ps n, g.follow item ps = some (.place n) → g'.get n = g.get n

/-- There are no collections in a value without parts. -/
theorem agrees_value (v : Value) : g.Agrees g' (.value v) := by
  intro ps n h
  cases ps <;> cases h

namespace Agrees

theorem follow_eq (h : g.Agrees g' item) (ps : List Nat) :
    g'.follow item ps = g.follow item ps := by
  induction ps generalizing item with
  | nil => rw [follow_nil, follow_nil]
  | cons i ps ih =>
    cases item with
    | value v => rfl
    | place n =>
      show (g'.get n).items[i]?.bind _ = (g.get n).items[i]?.bind _
      rw [h [] n rfl]
      refine Option.bind_congr fun x hx => ih fun qs m hm => h (i :: qs) m ?_
      exact (congrArg (Option.bind · fun x => g.follow x qs) hx).trans hm

theorem symm (h : g.Agrees g' item) : g'.Agrees g item := fun ps n hn =>
  (h ps n ((h.follow_eq ps).symm.trans hn)).symm

theorem trans (h : g.Agrees g' item) (h' : g'.Agrees g'' item) : g.Agrees g'' item :=
  fun ps n hn => (h' ps n ((h.follow_eq ps).trans hn)).trans (h ps n hn)

theorem mappingAt?_eq (h : g.Agrees g' item) : g'.mappingAt? item = g.mappingAt? item := by
  cases item with
  | value v => rfl
  | place n =>
    unfold mappingAt?
    simp only [h [] n rfl]

end Agrees

/-- What two graphs hold somewhere is the same: nothing, mappings, or an item with the same
collections in it. -/
inductive Same (g g' : Graph) : Option Item → Option Item → Prop
  | nothing : Same g g' none none
  | mappings {item other : Item} (h : (g.mappingAt? item).isSome = true)
      (h' : (g'.mappingAt? other).isSome = true) : Same g g' (some item) (some other)
  | item {item : Item} (h : g.Agrees g' item) : Same g g' (some item) (some item)

namespace Same

variable {x y z : Option Item}

theorem eq_of_value {v : Value} (h : g.Same g' x (some (.value v))) : x = some (.value v) := by
  cases h with
  | mappings _ h' => cases h'
  | item => rfl

theorem symm (h : g.Same g' x y) : g'.Same g y x := by
  cases h with
  | nothing => exact .nothing
  | mappings h h' => exact .mappings h' h
  | item h => exact .item h.symm

theorem trans (h : g.Same g' x y) (h' : g'.Same g'' y z) : g.Same g'' x z := by
  cases h with
  | nothing =>
    cases h'
    exact .nothing
  | mappings hx hy =>
    cases h' with
    | mappings _ hz => exact .mappings hx hz
    | item h' => exact .mappings hx (h'.mappingAt?_eq ▸ hy)
  | item h =>
    cases h' with
    | mappings hy hz => exact .mappings (h.mappingAt?_eq ▸ hy) hz
    | item h' => exact .item (h.trans h')

end Same

/-- Two graphs hold the same at every path of keys from an item. -/
def Alike (g g' : Graph) (root : Item) : Prop :=
  ∀ path, g.Same g' (g.at? root path) (g'.at? root path)

/-- What keys lead to, positions lead to. -/
theorem exists_follow_of_at? {path : List Value} (h : g.at? item path = some other) :
    ∃ ps, g.follow item ps = some other := by
  induction path generalizing item with
  | nil => exact ⟨[], (follow_nil ..).trans h⟩
  | cons key path ih =>
    obtain ⟨n, hn, h⟩ := Option.bind_eq_some_iff.mp h
    obtain ⟨x, hx, h⟩ := Option.bind_eq_some_iff.mp h
    obtain ⟨rfl, b, hget⟩ := mappingAt?_eq_some_iff.mp hn
    rw [bindings_of_get hget] at hx
    obtain ⟨entry, hfind, rfl⟩ := Option.map_eq_some_iff.mp hx
    obtain ⟨i, hi⟩ := List.mem_iff_getElem?.mp (List.mem_of_find?_eq_some hfind)
    obtain ⟨ps, hps⟩ := ih h
    exact ⟨i :: ps, by rw [follow_cons_of_mapping hget, hi, Option.bind_some, hps]⟩

/-- Where no mapping stands in two places, changes of those that keys lead to leave all other items
as they are. -/
theorem Unshared.agrees {root : Item} {used : Set Nat} {path : List Value} (h : g.Unshared root)
    (hused : ∀ m ∈ used, ∃ ps, g.Leads root ps m) (hkeeps : g.Keeps g' used)
    (hitem : g.at? root path = some item) (hno : g.mappingAt? item = none) : g.Agrees g' item := by
  intro ps n hn
  obtain ⟨qs, hqs⟩ := exists_follow_of_at? hitem
  have hroot : g.follow root (qs ++ ps) = some (.place n) :=
    (follow_append_of_eq_some hqs ps).trans hn
  refine hkeeps.get n (h.places _ n hroot) fun hmem => ?_
  obtain ⟨rs, hrs⟩ := hused n hmem
  -- the one list of positions that leads there goes by way of the item, which is no mapping
  obtain ⟨m, b, hm, hget⟩ := hrs.exists_follow (h.once rs _ n hrs hroot ▸ List.prefix_append qs ps)
  obtain rfl := Option.some.inj (hqs.symm.trans hm)
  rw [mappingAt?_of_get hget] at hno
  cases hno

end RoleSchema.Graph
