import RoleSchema.Proofs.Data.Paths

/-!
# What a merge leaves

Merging binds the keys of one mapping in another one after the other. Which value a key has in the
end depends on what the two mappings bind it to and on nothing else: mappings are merged in turn,
any other value of the second mapping replaces that of the first, and remarks are passed over.
Followed along paths, this says for every value of the two mappings whether it is found in what they
are merged to. The mappings are trees; mappings of a graph in which none stands in two places are
merged as the trees that they stand for (`exists_mergesTo`).

* `Entries.get?_merge`: what a key is bound to after a merge.
* `Entries.MergedExactly`: which values are found at which paths.
* `Entries.merge_exact`: a merge leaves just these, and a second one changes nothing.
-/

namespace RoleSchema

namespace Entries

/-- Wherever keys lead in a mapping, its keys are texts, each bound once. -/
structure TextKeyed (e : Entries) : Prop where
  proper : e.Proper
  texts : ∀ path sub, e.within path = some sub → ∀ x ∈ sub, x.1.isText = true

/-- What a key that is no remark is bound to after a merge, given what the two mappings bind it
to. -/
def overlaid : Option Value → Option Value → Option Value
  | some (.mapping sub), some (.mapping layer) => some (.mapping (Entries.merge sub layer).entries)
  | below, none => below
  | _, some v => some v

/-- A mapping leaves alone what another one holds at a path. Followed along keys that are no
remarks, it binds nothing at the path, and before its end nothing but mappings. -/
structure Spares (layer : Entries) (path : List Value) : Prop where
  unbound : IsPath path → layer.at? path = none
  passable : ∀ before after v, path = before ++ after → after ≠ [] → IsPath before →
    layer.at? before = some v → v.isMapping = true

/-- What two mappings have been merged to, path by path. -/
structure MergedExactly (base layer merged : Entries) : Prop where
  /-- What the second mapping holds without a remark on the way is found there. -/
  bound : ∀ path v, IsPath path → layer.at? path = some v → v.isMapping = false →
    merged.at? path = some v
  /-- What the first mapping holds stays where the second one leaves it alone. -/
  kept : ∀ path v, base.at? path = some v → v.isMapping = false → layer.Spares path →
    merged.at? path = some v
  /-- Elsewhere what the second mapping holds, a value, a mapping or nothing, has come in its
  place. -/
  replaced : ∀ path v, base.at? path = some v → v.isMapping = false → ¬ layer.Spares path →
    merged.at? path = layer.at? path
  /-- Remarks are those of the first mapping wherever keys lead to mappings in both. -/
  remarks : ∀ path key sub sub', base.at? path = some (.mapping sub) →
    layer.at? path = some (.mapping sub') → key.isRemark = true →
      merged.at? (path ++ [key]) = base.at? (path ++ [key])

variable {base layer e rest : Entries} {key : Value} {path : List Value}

/-! ## Keys that are texts -/

namespace TextKeyed

theorem keys (h : e.TextKeyed) : ∀ x ∈ e, x.1.isText = true := h.texts [] e rfl

theorem of_get? {sub : Entries} (h : e.TextKeyed) (hsub : e.get? key = some (.mapping sub)) :
    sub.TextKeyed where
  proper := h.proper.of_get? (Bindings.isText_of_get?_eq_some h.keys hsub) hsub
  texts path below hbelow := h.texts (key :: path) below ((within_cons hsub path).trans hbelow)

theorem of_cons {entry : Value × Value} (h : TextKeyed (entry :: rest)) : rest.TextKeyed where
  proper := h.proper.of_cons
  texts := by
    intro path below hbelow
    cases path with
    | nil =>
      cases hbelow
      exact fun x hx => h.keys x (List.mem_cons_of_mem _ hx)
    | cons key path =>
      obtain ⟨sub, hget, hbelow⟩ := exists_of_within_cons hbelow
      have hkeys : ∀ x ∈ rest, x.1.isText = true := fun x hx => h.keys x (List.mem_cons_of_mem _ hx)
      have hkey := Bindings.isText_of_get?_eq_some hkeys hget
      have hmem := List.mem_cons_of_mem entry (Bindings.mem_of_get?_eq_some hkey hget)
      exact (h.of_get? (Bindings.get?_of_mem h.proper.distinct hkey hmem)).texts path below hbelow

/-- Texts that are bound once each make a mapping of this kind, if the mappings that they are bound
to are of it. -/
theorem of_entries (hdistinct : e.Distinct) (hkeys : ∀ x ∈ e, x.1.isText = true)
    (hsub : ∀ (key : Value) (sub : Entries), (key, .mapping sub) ∈ e → sub.TextKeyed) :
    e.TextKeyed where
  proper path below hpath hbelow := by
    cases path with
    | nil =>
      cases hbelow
      exact hdistinct
    | cons key path =>
      obtain ⟨hkey, hpath⟩ := List.forall_mem_cons.mp hpath
      obtain ⟨sub, hget, hbelow⟩ := exists_of_within_cons hbelow
      exact (hsub key sub (Bindings.mem_of_get?_eq_some hkey hget)).proper path below hpath hbelow
  texts path below hbelow := by
    cases path with
    | nil =>
      cases hbelow
      exact hkeys
    | cons key path =>
      obtain ⟨sub, hget, hbelow⟩ := exists_of_within_cons hbelow
      have hkey := Bindings.isText_of_get?_eq_some hkeys hget
      exact (hsub key sub (Bindings.mem_of_get?_eq_some hkey hget)).texts path below hbelow

theorem of_flat (hdistinct : e.Distinct)
    (hkeys : ∀ x ∈ e, x.1.isText = true) (hflat : ∀ x ∈ e, x.2.isMapping = false) : e.TextKeyed :=
  .of_entries hdistinct hkeys fun _ _ h => nomatch hflat _ h

/-- The first key is bound once. -/
theorem get?_rest {v : Value} (h : TextKeyed ((key, v) :: rest)) : rest.get? key = none := by
  have hkey : key.isText = true := h.keys _ (List.mem_cons_self ..)
  refine Option.eq_none_iff_forall_ne_some.mpr fun a ha => ?_
  have hmem := Bindings.mem_of_get?_eq_some hkey ha
  have hother := (List.pairwise_cons.mp h.proper.distinct).1 _ hmem
  have hsame : key.sameKey key = true := (Value.sameKey_iff_of_isText (.inl hkey)).mpr rfl
  rw [hsame] at hother
  cases hother

end TextKeyed

/-! ## One key -/

@[simp] theorem overlaid_none (below : Option Value) : overlaid below none = below := by
  cases below with
  | none => rfl
  | some v => cases v <;> rfl

@[simp] theorem overlaid_mappings (sub layer : Entries) :
    overlaid (some (.mapping sub)) (some (.mapping layer)) =
      some (.mapping (sub.merge layer).entries) := rfl

theorem overlaid_some {below : Option Value} {v : Value}
    (h : ∀ sub layer, below = some (.mapping sub) → v ≠ .mapping layer) :
    overlaid below (some v) = some v := by
  unfold overlaid
  split
  · next hv => exact absurd (Option.some.inj hv) (h _ _ rfl)
  · next hv => cases hv
  · next hv => rw [hv]

/-- A mapping with texts for keys does not stop a merge. -/
theorem stopped_merge (h : layer.TextKeyed) : (base.merge layer).stopped = none := by
  fun_induction Entries.merge base layer with
  | case1 base => rfl
  | case2 base key value rest hkey =>
    have htext : key.isText = true := h.keys _ (List.mem_cons_self ..)
    rw [htext] at hkey
    cases hkey
  | case3 base key value rest _ hremark ih => exact ih h.of_cons
  | case4 base key rest hkey _ sub layer hsub inner base' hstopped ih =>
    have hkey : key.isText = true := by simpa using hkey
    rw [ih (h.of_get? (Bindings.get?_cons_self hkey))] at hstopped
    cases hstopped
  | case5 base key rest _ _ sub layer hsub inner base' hgoes others ih₁ ih₂ => exact ih₂ h.of_cons
  | case6 base key value rest _ _ hnot ih => exact ih h.of_cons

/-- **What a key is bound to after a merge.** -/
theorem get?_merge (h : layer.TextKeyed) (hkey : key.isText = true) :
    (base.merge layer).entries.get? key =
      if key.isRemark then base.get? key else overlaid (base.get? key) (layer.get? key) := by
  -- The rest of the layer does not bind its first key again, so that what this key is bound to in
  -- the base before the rest is merged is what it is bound to in the end.
  fun_induction Entries.merge base layer with
  | case1 base => simp [Bindings.get?]
  | case2 base key' value rest hkey' =>
    have htext : key'.isText = true := h.keys _ (List.mem_cons_self ..)
    rw [htext] at hkey'
    cases hkey'
  | case3 base key' value rest hkey' hremark ih =>
    have hkey' : key'.isText = true := by simpa using hkey'
    rw [ih h.of_cons]
    by_cases hsame : key' = key
    · subst hsame
      rw [if_pos hremark, if_pos hremark]
    · rw [Bindings.get?_cons_of_ne hkey' hsame]
  | case4 base key' rest hkey' _ sub layer hsub inner base' hstopped ih =>
    have hkey' : key'.isText = true := by simpa using hkey'
    rw [stopped_merge (h.of_get? (Bindings.get?_cons_self hkey'))] at hstopped
    cases hstopped
  | case5 base key' rest hkey' hremark sub layer hsub inner base' hgoes others ih₁ ih₂ =>
    have hkey' : key'.isText = true := by simpa using hkey'
    show others.entries.get? key = _
    rw [ih₂ h.of_cons]
    by_cases hsame : key' = key
    · subst hsame
      rw [if_neg hremark, if_neg hremark, h.get?_rest, Bindings.get?_put_self hkey',
        Bindings.get?_cons_self hkey', hsub, overlaid_mappings, overlaid_none]
    · rw [Bindings.get?_put_of_ne hkey' hsame, Bindings.get?_cons_of_ne hkey' hsame]
  | case6 base key' value rest hkey' hremark hnot ih =>
    have hkey' : key'.isText = true := by simpa using hkey'
    rw [ih h.of_cons]
    by_cases hsame : key' = key
    · subst hsame
      rw [if_neg hremark, if_neg hremark, h.get?_rest, Bindings.get?_put_self hkey',
        Bindings.get?_cons_self hkey', overlaid_none, overlaid_some hnot]
    · rw [Bindings.get?_put_of_ne hkey' hsame, Bindings.get?_cons_of_ne hkey' hsame]

/-- A key that the second mapping binds has what both bind it to, merged if these are mappings, or
else what the second one binds it to. -/
theorem get?_merge_of_bound (base : Entries) {w : Value} (h : layer.TextKeyed)
    (hkey : key.isText = true) (hremark : key.isRemark = false) (hw : layer.get? key = some w) :
    (∃ sub sub' : Entries, base.get? key = some (.mapping sub) ∧ w = .mapping sub' ∧
      (base.merge layer).entries.get? key = some (.mapping (sub.merge sub').entries)) ∨
    ((∀ sub sub', base.get? key = some (.mapping sub) → w ≠ .mapping sub') ∧
      (base.merge layer).entries.get? key = some w) := by
  rw [get?_merge h hkey, hremark, if_neg Bool.false_ne_true, hw]
  by_cases hboth : ∃ sub sub', base.get? key = some (.mapping sub) ∧ w = .mapping sub'
  · obtain ⟨sub, sub', hsub, rfl⟩ := hboth
    exact .inl ⟨sub, sub', hsub, rfl, by rw [hsub, overlaid_mappings]⟩
  · have hother : ∀ sub sub', base.get? key = some (.mapping sub) → w ≠ .mapping sub' :=
      fun sub sub' hsub hw => hboth ⟨sub, sub', hsub, hw⟩
    exact .inr ⟨hother, overlaid_some hother⟩

theorem get?_merge_of_unbound (h : layer.TextKeyed) (hkey : key.isText = true)
    (hunbound : key.isRemark = true ∨ layer.get? key = none) :
    (base.merge layer).entries.get? key = base.get? key := by
  rw [get?_merge h hkey]
  rcases hunbound with hremark | hnone
  · rw [if_pos hremark]
  · rw [hnone, overlaid_none, ite_self]

/-! ## What is left alone -/

/-- Along a path, a mapping leaves alone what is behind a remark or a key that it does not bind, and
what its own mapping leaves alone. -/
theorem spares_cons_iff (hkey : key.isText = true) : layer.Spares (key :: path) ↔
    (key.isRemark = true ∨ layer.get? key = none) ∨
      ∃ sub : Entries, layer.get? key = some (.mapping sub) ∧ sub.Spares path := by
  constructor
  · intro h
    by_cases hremark : key.isRemark = true
    · exact .inl (.inl hremark)
    have hfirst : key.isText = true ∧ key.isRemark = false := ⟨hkey, by simpa using hremark⟩
    cases hget : layer.get? key with
    | none => exact .inl (.inr rfl)
    | some v =>
      have hne : path ≠ [] := by
        rintro rfl
        have hnone := h.unbound (List.forall_mem_singleton.mpr hfirst)
        rw [at?_cons, hget] at hnone
        cases (Value.at?_nil v).symm.trans hnone
      have hv : v.isMapping = true := by
        refine h.passable [key] path v rfl hne (List.forall_mem_singleton.mpr hfirst) ?_
        exact at?_cons_eq_some_iff.mpr ⟨v, hget, Value.at?_nil v⟩
      obtain ⟨sub, rfl⟩ := Value.exists_of_isMapping hv
      refine .inr ⟨sub, rfl, fun hpath => ?_, fun before after w hsplit hafter hbefore hw => ?_⟩
      · have hnone := h.unbound (List.forall_mem_cons.mpr ⟨hfirst, hpath⟩)
        rwa [at?_cons, hget] at hnone
      · refine h.passable (key :: before) after w (congrArg (key :: ·) hsplit) hafter
          (List.forall_mem_cons.mpr ⟨hfirst, hbefore⟩) ?_
        exact at?_cons_eq_some_iff.mpr ⟨_, hget, hw⟩
  · intro h
    have hcases : IsPath (key :: path) → layer.at? (key :: path) = none := by
      intro hpath
      obtain ⟨⟨-, hremark⟩, hrest⟩ := List.forall_mem_cons.mp hpath
      rcases h with (hkey | hnone) | ⟨sub, hsub, hspares⟩
      · rw [hremark] at hkey
        cases hkey
      · rw [at?_cons, hnone]
        rfl
      · rw [at?_cons, hsub]
        exact hspares.unbound hrest
    refine ⟨hcases, fun before after w hsplit hafter hbefore hw => ?_⟩
    cases before with
    | nil =>
      cases hw
      rfl
    | cons k before =>
      obtain ⟨rfl, hrest⟩ := List.cons.inj hsplit
      obtain ⟨⟨-, hremark⟩, hbefore⟩ := List.forall_mem_cons.mp hbefore
      obtain ⟨u, hu, hw⟩ := at?_cons_eq_some_iff.mp hw
      rcases h with (hkey | hnone) | ⟨sub, hsub, hspares⟩
      · rw [hremark] at hkey
        cases hkey
      · rw [hnone] at hu
        cases hu
      · cases hsub.symm.trans hu
        exact hspares.passable before after w hrest hafter hbefore hw

/-! ## Paths -/

/-- A mapping holds what another one holds, without a remark on the way: the same values, and
mappings where that has mappings. -/
def Contains (e layer : Entries) : Prop :=
  ∀ path v, IsPath path → layer.at? path = some v → (e.at? path).map Value.outline = some v.outline

theorem contains_merge (base : Entries) (h : layer.TextKeyed) :
    (base.merge layer).entries.Contains layer := by
  intro path v hpath hv
  induction path generalizing base layer with
  | nil =>
    cases hv
    rfl
  | cons key path ih =>
    obtain ⟨⟨hkey, hremark⟩, hpath⟩ := List.forall_mem_cons.mp hpath
    obtain ⟨w, hw, hv⟩ := at?_cons_eq_some_iff.mp hv
    rcases get?_merge_of_bound base h hkey hremark hw with
      ⟨sub, sub', -, rfl, hmerged⟩ | ⟨-, hmerged⟩
    · rw [at?_cons, hmerged]
      exact ih sub (h.of_get? hw) hpath hv
    · rw [at?_cons, hmerged]
      exact congrArg (Option.map Value.outline) hv

theorem at?_merge_of_spares {v : Value} (hbase : base.TextKeyed) (h : layer.TextKeyed)
    (hv : base.at? path = some v) (hplain : v.isMapping = false) (hspares : layer.Spares path) :
    (base.merge layer).entries.at? path = some v := by
  induction path generalizing base layer with
  | nil =>
    cases hv
    cases hplain
  | cons key path ih =>
    obtain ⟨w, hw, hrest⟩ := at?_cons_eq_some_iff.mp hv
    have hkey := Bindings.isText_of_get?_eq_some hbase.keys hw
    rcases (spares_cons_iff hkey).mp hspares with hunbound | ⟨sub', hsub', hbelow⟩
    · rwa [at?_cons_congr (get?_merge_of_unbound h hkey hunbound)]
    · by_cases hremark : key.isRemark = true
      · rwa [at?_cons_congr (get?_merge_of_unbound h hkey (.inl hremark))]
      have hremark : key.isRemark = false := by simpa using hremark
      rcases get?_merge_of_bound base h hkey hremark hsub' with
        ⟨sub, _, hsub, hsame, hmerged⟩ | ⟨hother, hmerged⟩
      · cases hsame
        cases hsub.symm.trans hw
        rw [at?_cons, hmerged]
        exact ih (hbase.of_get? hsub) (h.of_get? hsub') hrest hbelow
      · -- nothing that is no mapping is left alone by a mapping
        cases path with
        | nil => cases hbelow.unbound fun _ hkey => absurd hkey List.not_mem_nil
        | cons k path =>
          cases w with
          | mapping sub => exact absurd rfl (hother sub sub' hw)
          | _ => cases hrest

theorem at?_merge_of_not_spares {v : Value} (hbase : base.TextKeyed) (h : layer.TextKeyed)
    (hv : base.at? path = some v) (hplain : v.isMapping = false) (hspares : ¬ layer.Spares path) :
    (base.merge layer).entries.at? path = layer.at? path := by
  induction path generalizing base layer with
  | nil =>
    cases hv
    cases hplain
  | cons key path ih =>
    obtain ⟨w, hw, hrest⟩ := at?_cons_eq_some_iff.mp hv
    have hkey := Bindings.isText_of_get?_eq_some hbase.keys hw
    rw [spares_cons_iff hkey, not_or, not_or] at hspares
    obtain ⟨⟨hremark, hbound⟩, hsub⟩ := hspares
    have hremark : key.isRemark = false := by simpa using hremark
    obtain ⟨w', hw'⟩ := Option.ne_none_iff_exists'.mp hbound
    rcases get?_merge_of_bound base h hkey hremark hw' with
      ⟨sub, sub', hsame, rfl, hmerged⟩ | ⟨-, hmerged⟩
    · cases hsame.symm.trans hw
      rw [at?_cons, at?_cons, hmerged, hw']
      exact ih (hbase.of_get? hw) (h.of_get? hw') hrest fun hspares => hsub ⟨sub', hw', hspares⟩
    · rw [at?_cons_congr (hmerged.trans hw'.symm)]

theorem at?_merge_of_remark {sub sub' : Entries} (hbase : base.TextKeyed) (h : layer.TextKeyed)
    (hsub : base.at? path = some (.mapping sub)) (hsub' : layer.at? path = some (.mapping sub'))
    (hremark : key.isRemark = true) :
    (base.merge layer).entries.at? (path ++ [key]) = base.at? (path ++ [key]) := by
  induction path generalizing base layer with
  | nil =>
    have hkey := Value.isText_of_isRemark hremark
    exact at?_cons_congr (get?_merge_of_unbound h hkey (.inl hremark))
  | cons k path ih =>
    obtain ⟨w, hw, hrest⟩ := at?_cons_eq_some_iff.mp hsub
    obtain ⟨w', hw', hrest'⟩ := at?_cons_eq_some_iff.mp hsub'
    have hk := Bindings.isText_of_get?_eq_some hbase.keys hw
    rw [List.cons_append]
    by_cases hkremark : k.isRemark = true
    · exact at?_cons_congr (get?_merge_of_unbound h hk (.inl hkremark))
    have hkremark : k.isRemark = false := by simpa using hkremark
    obtain ⟨below, hbelow⟩ := Value.exists_of_at?_mapping hrest
    obtain ⟨above, habove⟩ := Value.exists_of_at?_mapping hrest'
    subst hbelow habove
    rcases get?_merge_of_bound base h hk hkremark hw' with
      ⟨_, _, hsame, hsame', hmerged⟩ | ⟨hother, -⟩
    · cases hsame.symm.trans hw
      cases hsame'
      rw [at?_cons, at?_cons, hmerged, hw]
      exact ih (hbase.of_get? hw) (h.of_get? hw') hrest hrest'
    · exact absurd rfl (hother below above hw)

/-! ## Once more -/

theorem Contains.of_cons {entry : Value × Value} (h : TextKeyed (entry :: rest))
    (hcontains : e.Contains (entry :: rest)) : e.Contains rest := by
  intro path v hpath hv
  cases path with
  | nil =>
    cases hv
    rfl
  | cons key path =>
    obtain ⟨w, hw, hv⟩ := at?_cons_eq_some_iff.mp hv
    have hkey := (List.forall_mem_cons.mp hpath).1.1
    have hmem := List.mem_cons_of_mem entry (Bindings.mem_of_get?_eq_some hkey hw)
    have hget := Bindings.get?_of_mem h.proper.distinct hkey hmem
    exact hcontains (key :: path) v hpath (at?_cons_eq_some_iff.mpr ⟨w, hget, hv⟩)

theorem Contains.exists_get? {v : Value} (hcontains : e.Contains layer) (hkey : key.isText = true)
    (hremark : key.isRemark = false) (hv : layer.get? key = some v) :
    ∃ w, e.get? key = some w ∧ w.outline = v.outline := by
  have hpath : IsPath [key] := List.forall_mem_singleton.mpr ⟨hkey, hremark⟩
  have hat := hcontains [key] v hpath (at?_cons_eq_some_iff.mpr ⟨v, hv, Value.at?_nil v⟩)
  obtain ⟨w, hw, houtline⟩ := Option.map_eq_some_iff.mp hat
  obtain ⟨u, hu, hsame⟩ := at?_cons_eq_some_iff.mp hw
  rw [Value.at?_nil] at hsame
  exact ⟨w, hsame ▸ hu, houtline⟩

/-- What a mapping contains it has below each key, too. -/
theorem Contains.of_get? {sub sub' : Entries} (hcontains : e.Contains layer)
    (hkey : key.isText = true) (hremark : key.isRemark = false)
    (hsub : e.get? key = some (.mapping sub)) (hsub' : layer.get? key = some (.mapping sub')) :
    sub.Contains sub' := by
  intro path v hpath hv
  have hkeys : IsPath (key :: path) := List.forall_mem_cons.mpr ⟨⟨hkey, hremark⟩, hpath⟩
  have hat := hcontains (key :: path) v hkeys (at?_cons_eq_some_iff.mpr ⟨_, hsub', hv⟩)
  rwa [at?_cons, hsub] at hat

/-- Merging changes nothing in a mapping that contains all that is merged into it. -/
theorem entries_merge_of_contains (h : layer.TextKeyed) (hcontains : base.Contains layer) :
    (base.merge layer).entries = base := by
  fun_induction Entries.merge base layer with
  | case1 base => rfl
  | case2 base key value rest hkey => rfl
  | case3 base key value rest _ _ ih => exact ih h.of_cons (hcontains.of_cons h)
  | case4 base key rest hkey _ sub layer _ inner base' hstopped ih =>
    have hkey : key.isText = true := by simpa using hkey
    rw [stopped_merge (h.of_get? (Bindings.get?_cons_self hkey))] at hstopped
    cases hstopped
  | case5 base key rest hkey hremark sub layer hsub inner base' _ others ih₁ ih₂ =>
    have hkey : key.isText = true := by simpa using hkey
    have hremark : key.isRemark = false := by simpa using hremark
    have hlayer : Bindings.get? ((key, Value.mapping layer) :: rest) key = some (.mapping layer) :=
      Bindings.get?_cons_self hkey
    have hinner : inner.entries = sub :=
      ih₁ (h.of_get? hlayer) (hcontains.of_get? hkey hremark hsub hlayer)
    have hsame : base' = base := Bindings.put_of_get?_eq_some (hinner ▸ hsub)
    rw [hsame] at ih₂
    show others.entries = base
    rw [show others = merge base rest from congrArg (merge · rest) hsame]
    exact ih₂ h.of_cons (hcontains.of_cons h)
  | case6 base key value rest hkey hremark hnot ih =>
    have hkey : key.isText = true := by simpa using hkey
    have hremark : key.isRemark = false := by simpa using hremark
    have hvalue : Bindings.get? ((key, value) :: rest) key = some value :=
      Bindings.get?_cons_self hkey
    obtain ⟨w, hw, houtline⟩ := hcontains.exists_get? hkey hremark hvalue
    -- the key is bound to the value already: two mappings would have been merged
    have hplain : value.isMapping = false := by
      refine Bool.eq_false_iff.mpr fun hmapping => ?_
      obtain ⟨layer, rfl⟩ := Value.exists_of_isMapping hmapping
      obtain ⟨sub, rfl⟩ := Value.exists_of_outline_eq houtline
      exact hnot sub layer hw rfl
    have hsame : base.put key value = base :=
      Bindings.put_of_get?_eq_some (Value.eq_of_outline_eq hplain houtline ▸ hw)
    rw [hsame] at ih ⊢
    exact ih h.of_cons (hcontains.of_cons h)

/-- **A merge is exact.** -/
theorem merge_exact (hbase : base.TextKeyed) (hlayer : layer.TextKeyed) :
    MergedExactly base layer (base.merge layer).entries ∧ (base.merge layer).stopped = none ∧
      ((base.merge layer).entries.merge layer).entries = (base.merge layer).entries ∧
      ((base.merge layer).entries.merge layer).stopped = none := by
  refine ⟨?_, stopped_merge hlayer, ?_, stopped_merge hlayer⟩
  · exact
      { bound := fun path v hpath hv hplain => by
          have hat := contains_merge base hlayer path v hpath hv
          obtain ⟨w, hw, houtline⟩ := Option.map_eq_some_iff.mp hat
          rw [hw, Value.eq_of_outline_eq hplain houtline]
        kept := fun _ _ hv hplain => at?_merge_of_spares hbase hlayer hv hplain
        replaced := fun _ _ hv hplain => at?_merge_of_not_spares hbase hlayer hv hplain
        remarks := fun _ _ _ _ hsub hsub' => at?_merge_of_remark hbase hlayer hsub hsub' }
  · exact entries_merge_of_contains hlayer (contains_merge base hlayer)

end Entries

namespace Theatres

/-- The settings of a house, in which the generator has a remark. -/
def house : Entries :=
  [(.text "generator", .mapping [(.text "encoding", .text "utf-8"), (.text "_by", .text "us")]),
    (.text "global", .mapping [(.text "log_level", .text "INFO")]),
    (.text "namespaces", .text "none")]

/-- The settings of a tour: keys and a remark in a mapping of the house, nothing in the place of a
mapping, and a mapping in the place of a text. -/
def tour : Entries :=
  [(.text "_environment", .text "tour"),
    (.text "generator", .mapping
      [(.text "_by", .text "them"), (.text "encoding", .text "ascii"), (.text "indent", .int 2)]),
    (.text "global", .null),
    (.text "namespaces", .mapping [(.text "orm", .text "urn:orm"), (.text "_by", .text "them")])]

/-- What the house has on tour. -/
def houseOnTour : Entries :=
  [(.text "generator", .mapping
      [(.text "encoding", .text "ascii"), (.text "_by", .text "us"), (.text "indent", .int 2)]),
    (.text "global", .null),
    (.text "namespaces", .mapping [(.text "orm", .text "urn:orm"), (.text "_by", .text "them")])]

theorem house_textKeyed : house.TextKeyed := by
  refine .of_entries (by decide) (by decide) fun key sub h => ?_
  simp only [house, List.mem_cons, Prod.mk.injEq, Value.mapping.injEq, List.not_mem_nil,
    or_false] at h
  rcases h with ⟨-, rfl⟩ | ⟨-, rfl⟩ | ⟨-, ⟨⟩⟩
  · exact .of_flat (by decide) (by decide) (by decide)
  · exact .of_flat (by decide) (by decide) (by decide)

theorem tour_textKeyed : tour.TextKeyed := by
  refine .of_entries (by decide) (by decide) fun key sub h => ?_
  simp only [tour, List.mem_cons, Prod.mk.injEq, Value.mapping.injEq, List.not_mem_nil,
    or_false] at h
  rcases h with ⟨-, ⟨⟩⟩ | ⟨-, rfl⟩ | ⟨-, ⟨⟩⟩ | ⟨-, rfl⟩
  · exact .of_flat (by decide) (by decide) (by decide)
  · exact .of_flat (by decide) (by decide) (by decide)

theorem entries_merge_tour : (house.merge tour).entries = houseOnTour := by
  simp [house, tour, houseOnTour, Entries.merge, Value.isText, Value.isRemark, Bindings.get?,
    Bindings.put, Value.sameKey, Value.toInt?]

theorem house_on_tour :
    house.TextKeyed ∧ tour.TextKeyed ∧ (house.merge tour).entries = houseOnTour ∧
      Entries.MergedExactly house tour houseOnTour ∧ (house.merge tour).stopped = none ∧
      (houseOnTour.merge tour).entries = houseOnTour ∧
      (houseOnTour.merge tour).stopped = none := by
  have hexact := Entries.merge_exact house_textKeyed tour_textKeyed
  rw [entries_merge_tour] at hexact
  exact ⟨house_textKeyed, tour_textKeyed, entries_merge_tour, hexact⟩

end Theatres

end RoleSchema
