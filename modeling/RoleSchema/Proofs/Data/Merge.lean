import RoleSchema.Data.Merge

/-!
# Where merging is stopped

Merging binds the keys of one mapping in another one after the other, and goes on below a key where
both have a mapping. So it goes wrong exactly if it comes to a key that is no text or binds a value
that cannot be told of, and which keys it comes to can be read off the two mappings as they were.

* `Bindings.get?_put`: what keys are bound to after one has been bound.
* `Entries.Mergeable`: nothing that merging comes to is in its way.
* `Entries.clean_merge_iff`: then, and only then, nothing goes wrong.
-/

namespace RoleSchema

/-! ## Keys -/

namespace Value

variable {a b : Value}

/-- A text is the same key as itself only. -/
theorem sameKey_iff_of_isText (h : a.isText = true ∨ b.isText = true) :
    a.sameKey b = true ↔ a = b := by
  constructor
  · intro hsame
    unfold sameKey at hsame
    split at hsame
    · next m n ha hb =>
      cases a <;> cases b <;> simp_all [isText, toInt?]
    · split at hsame <;> simp_all [isText]
    · cases hsame
  · rintro rfl
    cases a <;> simp_all [isText, sameKey, toInt?]

end Value

namespace Bindings

variable {α : Type} {e : Bindings α} {key k : Value} {a : α}

/-- Each key is bound once. -/
def Distinct (e : Bindings α) : Prop := e.Pairwise fun x y => x.1.sameKey y.1 = false

instance : Decidable e.Distinct :=
  inferInstanceAs (Decidable (e.Pairwise fun x y => x.1.sameKey y.1 = false))

theorem get?_cons_of_same (h : k.sameKey key = true) : get? ((k, a) :: e) key = some a := by
  simp [get?, h]

theorem get?_cons_of_other (h : k.sameKey key = false) : get? ((k, a) :: e) key = e.get? key := by
  simp [get?, h]

theorem get?_cons_self (hkey : key.isText = true) : get? ((key, a) :: e) key = some a :=
  get?_cons_of_same ((Value.sameKey_iff_of_isText (.inl hkey)).mpr rfl)

theorem get?_cons_of_ne (hkey : key.isText = true) (h : key ≠ k) :
    get? ((key, a) :: e) k = e.get? k :=
  get?_cons_of_other (Bool.eq_false_iff.mpr fun hsame =>
    h ((Value.sameKey_iff_of_isText (.inl hkey)).mp hsame))

theorem mem_of_get?_eq_some (hkey : key.isText = true) (h : e.get? key = some a) :
    (key, a) ∈ e := by
  obtain ⟨⟨k, b⟩, hfind, rfl⟩ := Option.map_eq_some_iff.mp h
  have hsame : k.sameKey key = true :=
    List.find?_some (p := fun x : Value × α => x.1.sameKey key) hfind
  obtain rfl := (Value.sameKey_iff_of_isText (.inr hkey)).mp hsame
  exact List.mem_of_find?_eq_some hfind

theorem get?_of_mem (h : e.Distinct) (hkey : key.isText = true) (hmem : (key, a) ∈ e) :
    e.get? key = some a := by
  induction e with
  | nil => cases hmem
  | cons b rest ih =>
    obtain ⟨hb, hrest⟩ := List.pairwise_cons.mp h
    rcases List.mem_cons.mp hmem with rfl | hmem
    · exact get?_cons_self hkey
    · exact (get?_cons_of_other (hb _ hmem)).trans (ih hrest hmem)

theorem get?_put_self (hkey : key.isText = true) : (put key a e).get? key = some a := by
  induction e with
  | nil => exact get?_cons_self hkey
  | cons b rest ih =>
    obtain ⟨k', c⟩ := b
    unfold put
    split
    · next hsame => exact get?_cons_of_same hsame
    · next hother => exact (get?_cons_of_other (Bool.eq_false_iff.mpr hother)).trans ih

/-- Binding a text leaves what other keys are bound to. -/
theorem get?_put_of_ne (hkey : key.isText = true) (h : key ≠ k) :
    (put key a e).get? k = e.get? k := by
  induction e with
  | nil => exact get?_cons_of_ne hkey h
  | cons b rest ih =>
    obtain ⟨k', c⟩ := b
    unfold put
    split
    · next hsame =>
      obtain rfl := (Value.sameKey_iff_of_isText (.inr hkey)).mp hsame
      rw [get?_cons_of_ne hkey h, get?_cons_of_ne hkey h]
    · cases hk : k'.sameKey k with
      | true => rw [get?_cons_of_same hk, get?_cons_of_same hk]
      | false => rw [get?_cons_of_other hk, get?_cons_of_other hk, ih]

/-- What is bound after a key has been bound was bound before, or is bound to the new value under a
key from before or the new one. -/
theorem of_mem_put {x : Value × α} (h : x ∈ put key a e) :
    x ∈ e ∨ x.2 = a ∧ (x.1 = key ∨ ∃ y ∈ e, y.1 = x.1) := by
  induction e with
  | nil =>
    obtain rfl := List.mem_singleton.mp h
    exact .inr ⟨rfl, .inl rfl⟩
  | cons b rest ih =>
    unfold put at h
    split at h
    · rcases List.mem_cons.mp h with rfl | h
      · exact .inr ⟨rfl, .inr ⟨b, List.mem_cons_self .., rfl⟩⟩
      · exact .inl (List.mem_cons_of_mem _ h)
    · rcases List.mem_cons.mp h with rfl | h
      · exact .inl (List.mem_cons_self ..)
      · refine (ih h).imp (List.mem_cons_of_mem _) fun ⟨hvalue, hkey⟩ => ⟨hvalue, ?_⟩
        exact hkey.imp_right fun ⟨y, hy, hkey⟩ => ⟨y, List.mem_cons_of_mem _ hy, hkey⟩

/-- Binding a key keeps each key bound once. -/
theorem Distinct.put (h : e.Distinct) (key : Value) (a : α) : (Bindings.put key a e).Distinct := by
  induction e with
  | nil => exact List.pairwise_singleton _ _
  | cons b rest ih =>
    obtain ⟨hb, hrest⟩ := List.pairwise_cons.mp h
    unfold Bindings.put
    split
    · exact List.pairwise_cons.mpr ⟨hb, hrest⟩
    · next hother =>
      refine List.pairwise_cons.mpr ⟨fun x hx => ?_, ih hrest⟩
      rcases of_mem_put hx with hx | ⟨-, hkey | ⟨y, hy, hkey⟩⟩
      · exact hb x hx
      · rw [hkey]
        exact Bool.eq_false_iff.mpr hother
      · rw [← hkey]
        exact hb y hy

end Bindings

/-! ## Mappings within mappings -/

/-- Nothing has gone wrong in a merge: it has not been stopped, and what has been bound can be told
of. -/
structure Merge.Clean (m : Merge) : Prop where
  finished : m.stopped = none
  showable : ∀ b ∈ m.bound, b.2.isShowable = true

namespace Entries

variable {base base' layer below above : Entries} {key value : Value}

/-- The mapping to which keys lead, one after the other. -/
def within : Entries → List Value → Option Entries
  | e, [] => some e
  | e, key :: path =>
    match e.get? key with
    | some (.mapping sub) => within sub path
    | _ => none

/-- Keys below which merging goes on. -/
def IsPath (path : List Value) : Prop := ∀ key ∈ path, key.isText = true ∧ key.isRemark = false

/-- Wherever keys lead in a mapping, each key is bound once. -/
def Proper (e : Entries) : Prop :=
  ∀ path sub, (∀ key ∈ path, key.isText = true) → e.within path = some sub → sub.Distinct

/-- An entry can be merged into a mapping: its key is a text, and where the mapping does not have
another mapping in its place, what it binds can be told of. -/
def Fits (base : Entries) (entry : Value × Value) : Prop :=
  entry.1.isText = true ∧ (entry.1.isRemark = false →
    (∃ sub layer, base.get? entry.1 = some (.mapping sub) ∧ entry.2 = .mapping layer) ∨
      entry.2.isShowable = true)

/-- Nothing is in the way of merging one mapping into another: wherever keys lead to mappings in
both, the entries there can be merged. -/
def Mergeable (base layer : Entries) : Prop :=
  ∀ path below above, IsPath path → base.within path = some below →
    layer.within path = some above → ∀ entry ∈ above, Fits below entry

theorem Proper.distinct (h : layer.Proper) : layer.Distinct :=
  h [] layer (fun _ hkey => absurd hkey List.not_mem_nil) rfl

theorem within_cons {sub : Entries} (h : base.get? key = some (.mapping sub)) (path : List Value) :
    base.within (key :: path) = sub.within path := by
  rw [within, h]

/-- A path that leads anywhere leads to a mapping first. -/
theorem exists_of_within_cons {path : List Value} (h : base.within (key :: path) = some below) :
    ∃ sub, base.get? key = some (.mapping sub) ∧ within sub path = some below := by
  unfold within at h
  split at h
  · next sub hsub => exact ⟨sub, hsub, h⟩
  · cases h

theorem Proper.of_get? {sub : Entries} (h : layer.Proper) (hkey : key.isText = true)
    (hsub : layer.get? key = some (.mapping sub)) : sub.Proper := by
  intro path above hpath habove
  refine h (key :: path) above (List.forall_mem_cons.mpr ⟨hkey, hpath⟩) ?_
  rwa [within_cons hsub]

theorem Proper.of_cons {entry : Value × Value} (h : Entries.Proper (entry :: layer)) :
    layer.Proper := by
  have hdistinct := h.distinct
  intro path above hpath habove
  cases path with
  | nil =>
    cases habove
    exact (List.pairwise_cons.mp hdistinct).2
  | cons key path =>
    obtain ⟨hkey, hpath⟩ := List.forall_mem_cons.mp hpath
    obtain ⟨sub, hget, habove⟩ := exists_of_within_cons habove
    have hmem := List.mem_cons_of_mem entry (Bindings.mem_of_get?_eq_some hkey hget)
    exact (h.of_get? hkey (Bindings.get?_of_mem hdistinct hkey hmem)) path above hpath habove

/-- Merging is free at the top and below every key under which both have a mapping. -/
theorem mergeable_iff : Mergeable base layer ↔
    (∀ entry ∈ layer, Fits base entry) ∧
      ∀ key sub sub', key.isText = true → key.isRemark = false →
        base.get? key = some (.mapping sub) → layer.get? key = some (.mapping sub') →
        Mergeable sub sub' := by
  constructor
  · intro h
    refine ⟨h [] base layer (fun _ hkey => absurd hkey List.not_mem_nil) rfl rfl, ?_⟩
    intro key sub sub' hkey hremark hsub hsub' path below above hpath hbelow habove
    refine h (key :: path) below above (List.forall_mem_cons.mpr ⟨⟨hkey, hremark⟩, hpath⟩) ?_ ?_
    · rwa [within_cons hsub]
    · rwa [within_cons hsub']
  · rintro ⟨hfits, hsub⟩ path below above hpath hbelow habove
    cases path with
    | nil =>
      cases hbelow
      cases habove
      exact hfits
    | cons key path =>
      obtain ⟨⟨hkey, hremark⟩, hpath⟩ := List.forall_mem_cons.mp hpath
      obtain ⟨sub, hget, hbelow⟩ := exists_of_within_cons hbelow
      obtain ⟨sub', hget', habove⟩ := exists_of_within_cons habove
      exact hsub key sub sub' hkey hremark hget hget' path below above hpath hbelow habove

/-! ## Merging -/

/-- What has to be so for an entry to be merged without anything going wrong, below its key too. -/
def Merges (base : Entries) (entry : Value × Value) : Prop :=
  Fits base entry ∧ (entry.1.isRemark = false → ∀ sub layer,
    base.get? entry.1 = some (.mapping sub) → entry.2 = .mapping layer → Mergeable sub layer)

theorem mergeable_iff_forall (h : layer.Distinct) :
    Mergeable base layer ↔ ∀ entry ∈ layer, Merges base entry := by
  rw [mergeable_iff]
  constructor
  · rintro ⟨hfits, hsub⟩ ⟨key, value⟩ hentry
    refine ⟨hfits _ hentry, fun hremark sub layer' hget hvalue => ?_⟩
    obtain rfl : value = .mapping layer' := hvalue
    have hkey : key.isText = true := (hfits _ hentry).1
    exact hsub key sub layer' hkey hremark hget (Bindings.get?_of_mem h hkey hentry)
  · intro hall
    refine ⟨fun entry hentry => (hall entry hentry).1, ?_⟩
    intro key sub sub' hkey hremark hget hget'
    exact (hall _ (Bindings.mem_of_get?_eq_some hkey hget')).2 hremark sub sub' hget rfl

/-- Whether an entry can be merged depends on what its key is bound to. -/
theorem merges_congr {entry : Value × Value} (h : base.get? entry.1 = base'.get? entry.1) :
    Merges base entry ↔ Merges base' entry := by
  unfold Merges Fits
  rw [h]

theorem merges_put {entry : Value × Value} {key v : Value} (hkey : key.isText = true)
    (h : key.sameKey entry.1 = false) :
    Merges (base.put key v) entry ↔ Merges base entry := by
  refine merges_congr (Bindings.get?_put_of_ne hkey ?_)
  intro heq
  rw [(Value.sameKey_iff_of_isText (.inl hkey)).mpr heq] at h
  cases h

theorem forall_merges_put {rest : Entries} {key v value : Value} (hkey : key.isText = true)
    (h : Bindings.Distinct ((key, value) :: rest)) :
    (∀ entry ∈ rest, Merges (base.put key v) entry) ↔ ∀ entry ∈ rest, Merges base entry :=
  forall₂_congr fun entry hentry => merges_put hkey ((List.pairwise_cons.mp h).1 entry hentry)

/-- Nothing goes wrong exactly if all entries can be merged, each into the mapping as it was. -/
theorem clean_merge_iff_forall (h : layer.Proper) :
    (base.merge layer).Clean ↔ ∀ entry ∈ layer, Merges base entry := by
  -- The rest of the layer is merged into a mapping in which one key has been bound anew. As no key
  -- comes up twice, this makes no difference to it, and the invariant is about `base` as it was.
  fun_induction Entries.merge base layer with
  | case1 base =>
    exact iff_of_true ⟨rfl, fun _ hb => absurd hb List.not_mem_nil⟩
      fun _ hentry => absurd hentry List.not_mem_nil
  | case2 base key value rest hkey =>
    refine iff_of_false (fun hclean => nomatch hclean.finished) fun hall => ?_
    have htext : key.isText = true := (hall _ (List.mem_cons_self ..)).1.1
    rw [htext] at hkey
    cases hkey
  | case3 base key value rest hkey hremark ih =>
    have hkey : key.isText = true := by simpa using hkey
    have hhead : Merges base (key, value) :=
      ⟨⟨hkey, fun hno => absurd (hremark.symm.trans hno) (by decide)⟩,
        fun hno => absurd (hremark.symm.trans hno) (by decide)⟩
    rw [ih h.of_cons, List.forall_mem_cons]
    exact (and_iff_right hhead).symm
  | case4 base key rest hkey hremark sub layer hsub inner base' hstopped ih =>
    have hkey : key.isText = true := by simpa using hkey
    have hremark : key.isRemark = false := by simpa using hremark
    refine iff_of_false (fun hclean => ?_) fun hall => ?_
    · have hfinished : inner.stopped = none := hclean.finished
      rw [hfinished] at hstopped
      cases hstopped
    · have hlayer : Entries.Proper layer := h.of_get? hkey (Bindings.get?_cons_self hkey)
      have hmergeable : Mergeable sub layer :=
        (hall _ (List.mem_cons_self ..)).2 hremark sub layer hsub rfl
      have hfinished : inner.stopped = none :=
        ((ih hlayer).mpr ((mergeable_iff_forall hlayer.distinct).mp hmergeable)).finished
      rw [hfinished] at hstopped
      cases hstopped
  | case5 base key rest hkey hremark sub layer hsub inner base' hgoes others ih₁ ih₂ =>
    have hkey : key.isText = true := by simpa using hkey
    have hremark : key.isRemark = false := by simpa using hremark
    have hlayer : Entries.Proper layer := h.of_get? hkey (Bindings.get?_cons_self hkey)
    have hinner : inner.Clean ↔ Merges base (key, .mapping layer) := by
      rw [ih₁ hlayer, ← mergeable_iff_forall hlayer.distinct]
      refine ⟨fun hm => ⟨⟨hkey, fun _ => .inl ⟨sub, layer, hsub, rfl⟩⟩, ?_⟩, fun hm => ?_⟩
      · rintro - sub' layer' hsub' hlayer'
        cases hsub.symm.trans hsub'
        cases hlayer'
        exact hm
      · exact hm.2 hremark sub layer hsub rfl
    have hothers : others.Clean ↔ ∀ entry ∈ rest, Merges base entry :=
      (ih₂ h.of_cons).trans (forall_merges_put hkey h.distinct)
    have hfinished : inner.stopped = none := by simpa using hgoes
    rw [List.forall_mem_cons, ← hinner, ← hothers]
    constructor
    · intro hclean
      exact ⟨⟨hfinished, fun b hb => hclean.showable b (List.mem_append_left _ hb)⟩,
        hclean.finished, fun b hb => hclean.showable b (List.mem_append_right _ hb)⟩
    · rintro ⟨hi, ho⟩
      exact ⟨ho.finished, fun b hb => (List.mem_append.mp hb).elim (hi.showable b) (ho.showable b)⟩
  | case6 base key value rest hkey hremark hnot ih =>
    have hkey : key.isText = true := by simpa using hkey
    have hremark : key.isRemark = false := by simpa using hremark
    have hhead : value.isShowable = true ↔ Merges base (key, value) := by
      refine ⟨fun hv => ⟨⟨hkey, fun _ => .inr hv⟩, ?_⟩, fun hm => ?_⟩
      · rintro - sub layer hsub hlayer
        exact absurd hlayer (hnot sub layer hsub)
      · rcases hm.1.2 hremark with ⟨sub, layer, hsub, hlayer⟩ | hv
        · exact absurd hlayer (hnot sub layer hsub)
        · exact hv
    have hothers : (merge (base.put key value) rest).Clean ↔ ∀ entry ∈ rest, Merges base entry :=
      (ih h.of_cons).trans (forall_merges_put hkey h.distinct)
    rw [List.forall_mem_cons, ← hhead, ← hothers]
    constructor
    · intro hclean
      exact ⟨hclean.showable _ (List.mem_cons_self ..),
        hclean.finished, fun b hb => hclean.showable b (List.mem_cons_of_mem _ hb)⟩
    · rintro ⟨hv, ho⟩
      exact ⟨ho.finished, List.forall_mem_cons.mpr ⟨hv, ho.showable⟩⟩

/-- **Merging goes well** exactly if nothing that it comes to is in its way. -/
theorem clean_merge_iff (h : layer.Proper) : (base.merge layer).Clean ↔ Mergeable base layer :=
  (clean_merge_iff_forall h).trans (mergeable_iff_forall h.distinct).symm

end Entries

end RoleSchema
