import Mathlib.Data.List.Infix
import RoleSchema.Proofs.Data.Paths
import RoleSchema.Proofs.Settings.Overriding

/-!
# Variables in any order

The name of a variable leads to a path of keys, which begins with the one section that the name is
for. Applying the variable binds its text there and makes a mapping of whatever is on the way. Two
variables get in each other's way only if the path of one begins with that of the other. So where no
two do, what each of them leaves can be said without the others, and their order does not matter.
Here the settings are trees.

* `IsSplit`: the pieces of a text between doubled low lines.
* `targets`: where a variable leads to.
* `Binds`: what variables leave of settings, path by path.
* `override_alike`: variables that keep out of each other's way leave the same in any order.
-/

namespace RoleSchema.Settings

/-! ## Where variables lead to -/

/-- The doubled low line, between keys. -/
def doubled : List Char := ['_', '_']

/-- A text falls into pieces at the first doubled low line in it, and at those in what comes
after. -/
inductive IsSplit : List Char → List (List Char) → Prop
  | last {piece : List Char} (hno : ¬ doubled <:+: piece) : IsSplit piece [piece]
  | more {piece rest : List Char} {pieces : List (List Char)}
      (hfirst : ¬ doubled <:+: piece ++ ['_']) (hrest : IsSplit rest pieces) :
      IsSplit (piece ++ doubled ++ rest) (piece :: pieces)

/-- The paths of keys that the name of a variable leads to, each beginning with its section. -/
def targets (name : String) : List (List String) :=
  sections.filterMap fun sectionName => (targetIn? sectionName name).map (sectionName :: ·)

/-- The texts that variables bind, each with the path of keys it is bound at. -/
def texts (vars : Variables) : List (List String × String) :=
  vars.flatMap fun v => (targets v.1).map fun path => (path, v.2)

/-- Two paths of which neither begins with the other. -/
def Unrelated {α : Type} (p q : List α) : Prop := ¬ p <+: q ∧ ¬ q <+: p

/-- Variables that keep out of each other's way: the path of none begins with that of another. -/
def Apart (vars : Variables) : Prop := (texts vars).Pairwise fun t u => Unrelated t.1 u.1

/-- A path as keys of settings. -/
def keys (path : List String) : List Value := path.map Value.text

/-- What texts that are bound leave of settings. -/
structure Binds (texts : List (List String × String)) (entries entries' : Entries) : Prop where
  /-- Each is found at its path. -/
  bound : ∀ t ∈ texts, entries'.at? (keys t.1) = some (.text t.2)
  /-- On the way to it there are mappings. -/
  opened : ∀ t ∈ texts, ∀ p, p <+: keys t.1 → p ≠ keys t.1 →
    ∃ sub, entries'.at? p = some (.mapping sub)
  /-- All that is elsewhere is as it was. -/
  kept : ∀ p, (∀ t ∈ texts, Unrelated p (keys t.1)) → entries'.at? p = entries.at? p

variable {entries entries' : Entries} {sectionName : String} {path : List String} {vars : Variables}

/-! ## Names -/

theorem IsSplit.ne_nil {cs : List Char} {pieces : List (List Char)} (h : IsSplit cs pieces) :
    pieces ≠ [] := by
  cases h <;> exact List.cons_ne_nil _ _

section

variable {piece cs rest : List Char} {c : Char} {pieces : List (List Char)}

theorem splitDoubled_char (h : ¬ doubled <+: c :: rest) :
    splitDoubled piece (c :: rest) = splitDoubled (c :: piece) rest := by
  rw [splitDoubled]
  rintro rest' rfl rfl
  exact h ⟨rest', rfl⟩

/-- Up to the first doubled low line, all characters are in one piece. -/
theorem splitDoubled_append (h : ¬ doubled <:+: cs ++ ['_']) :
    splitDoubled piece (cs ++ doubled ++ rest) = (piece.reverse ++ cs) :: splitDoubled [] rest := by
  induction cs generalizing piece with
  | nil => simp [doubled, splitDoubled]
  | cons c cs ih =>
    have hhead : ¬ doubled <+: c :: (cs ++ doubled ++ rest) := by
      intro hbegins
      refine h (List.IsPrefix.isInfix ?_)
      obtain ⟨after, hafter⟩ := hbegins
      obtain ⟨rfl, htail⟩ := List.cons.inj hafter
      cases cs with
      | nil => exact List.prefix_rfl
      | cons d cs => exact ⟨cs ++ ['_'], by rw [← (List.cons.inj htail).1]; rfl⟩
    have hcs : ¬ doubled <:+: cs ++ ['_'] := fun hoccurs => h (List.infix_cons hoccurs)
    rw [List.cons_append, List.cons_append, splitDoubled_char hhead, ih hcs]
    simp

theorem splitDoubled_of_no (h : ¬ doubled <:+: cs) :
    splitDoubled piece cs = [piece.reverse ++ cs] := by
  induction cs generalizing piece with
  | nil => simp [splitDoubled]
  | cons c cs ih =>
    rw [splitDoubled_char fun hbegins => h hbegins.isInfix,
      ih fun hoccurs => h (List.infix_cons hoccurs)]
    simp

/-- A doubled low line comes about only at the second one of its characters. -/
theorem not_doubled_concat {d : Char} (h : ¬ doubled <:+: cs ++ [c]) (hd : c = '_' → d ≠ '_') :
    ¬ doubled <:+: cs ++ [c] ++ [d] := by
  rw [List.infix_concat_iff, not_or]
  refine ⟨fun ⟨before, hbefore⟩ => ?_, h⟩
  have hsplit : before ++ ['_'] ++ ['_'] = cs ++ [c] ++ [d] := by simpa [doubled] using hbefore
  obtain ⟨hsplit, hlast⟩ := List.append_inj' hsplit rfl
  obtain ⟨-, hlast'⟩ := List.append_inj' hsplit rfl
  exact hd (List.cons.inj hlast').1.symm (List.cons.inj hlast).1.symm

/-- One character is too short for a doubled low line. -/
theorem not_doubled_take : ¬ doubled <:+: [].reverse ++ cs.take 1 := fun hoccurs => by
  have htwo : 2 ≤ (cs.take 1).length := hoccurs.length_le
  exact absurd (htwo.trans (List.length_take_le 1 cs)) (by decide)

/-- The pieces since the last doubled low line are those of what is left, the first one with the
characters that have been read. -/
theorem isSplit_splitDoubled_of (h : ¬ doubled <:+: piece.reverse ++ cs.take 1) :
    IsSplit (piece.reverse ++ cs) (splitDoubled piece cs) := by
  fun_induction splitDoubled piece cs with
  | case1 piece rest ih => simpa [doubled] using IsSplit.more h (ih not_doubled_take)
  | case2 piece c rest hother ih =>
    have hhead : ¬ doubled <:+: (c :: piece).reverse ++ rest.take 1 := by
      cases rest with
      | nil => simpa using h
      | cons d rest =>
        rw [List.reverse_cons]
        exact not_doubled_concat h fun hc hd => hother rest hc (by rw [hd])
    simpa using ih hhead
  | case3 piece => simpa using IsSplit.last (by simpa using h)

theorem isSplit_iff : IsSplit cs pieces ↔ pieces = splitDoubled [] cs := by
  constructor
  · intro h
    induction h with
    | last hno => rw [splitDoubled_of_no hno]; rfl
    | more hfirst hrest ih => rw [splitDoubled_append hfirst, ih]; rfl
  · rintro rfl
    simpa using isSplit_splitDoubled_of not_doubled_take

end

theorem mem_targets {name : String} {target : List String} : target ∈ targets name ↔
    ∃ sectionName ∈ sections, ∃ path, targetIn? sectionName name = some path ∧
      target = sectionName :: path := by
  simp only [targets, List.mem_filterMap, Option.map_eq_some_iff]
  simp only [eq_comm]

theorem mem_texts {t : List String × String} :
    t ∈ texts vars ↔ ∃ v ∈ vars, t.1 ∈ targets v.1 ∧ t.2 = v.2 := by
  simp only [texts, List.mem_flatMap, List.mem_map]
  constructor
  · rintro ⟨v, hv, path, hpath, rfl⟩
    exact ⟨v, hv, hpath, rfl⟩
  · rintro ⟨v, hv, hpath, hvalue⟩
    exact ⟨v, hv, t.1, hpath, Prod.ext rfl hvalue.symm⟩

/-- The name of a variable leads to the pieces of what follows its stem. -/
theorem targetIn?_append (sectionName rest : String) :
    targetIn? sectionName (variableStem sectionName ++ rest) =
      some ((splitDoubled [] (Text.lowerChars rest.toList)).map String.ofList) := by
  simp [targetIn?, afterStem?]

/-- Of two stems of different sections, none begins with the other. -/
theorem variableStem_apart {other : String} (hsection : sectionName ∈ sections)
    (hother : other ∈ sections) (hne : other ≠ sectionName) :
    ¬ (variableStem other).toList <+: (variableStem sectionName).toList := by
  have hall : ∀ s ∈ sections, ∀ t ∈ sections, t ≠ s →
      ¬ (variableStem t).toList <+: (variableStem s).toList := by decide
  exact hall sectionName hsection other hother hne

theorem targetIn?_append_of_ne {other : String} (rest : String) (hsection : sectionName ∈ sections)
    (hother : other ∈ sections) (hne : other ≠ sectionName) :
    targetIn? other (variableStem sectionName ++ rest) = none := by
  have hno : ¬ (variableStem other).toList <+: (variableStem sectionName ++ rest).toList := by
    intro hbegins
    rw [String.toList_append] at hbegins
    rcases List.prefix_or_prefix_of_prefix hbegins (List.prefix_append _ _) with h | h
    · exact variableStem_apart hsection hother hne h
    · exact variableStem_apart hother hsection hne.symm h
  simp only [targetIn?, afterStem?, List.isPrefixOf_iff_prefix, if_neg hno, Option.map_none]

/-- **Where a variable of a section leads to**, and nowhere else. -/
theorem targets_append (hsection : sectionName ∈ sections) (rest : String) :
    targets (variableStem sectionName ++ rest) =
      [sectionName :: (splitDoubled [] (Text.lowerChars rest.toList)).map String.ofList] := by
  have hall : ∀ other ∈ sections, (targetIn? other (variableStem sectionName ++ rest)).map
      (other :: ·) = if other = sectionName then some (other ::
        (splitDoubled [] (Text.lowerChars rest.toList)).map String.ofList) else none := by
    intro other hother
    split
    · next hsame => rw [hsame, targetIn?_append, Option.map_some]
    · next hne => rw [targetIn?_append_of_ne rest hsection hother hne, Option.map_none]
  rw [targets, List.filterMap_congr hall]
  simp only [sections, List.mem_cons, List.not_mem_nil, or_false] at hsection
  rcases hsection with rfl | rfl | rfl <;> rfl

/-! ## One binding -/

section

variable {v : Value} {key : String} {p : List Value}

/-- The mapping that a key is bound to, an empty one if it is bound to nothing of the kind. -/
def below (entries : Entries) (key : String) : Entries :=
  match entries.get? (.text key) with
  | some (.mapping sub) => sub
  | _ => []

theorem bindAt_cons (h : path ≠ []) : bindAt v (key :: path) entries =
    entries.put (.text key) (.mapping (bindAt v path (below entries key))) := by
  cases path with
  | nil => exact absurd rfl h
  | cons key' path => rfl

theorem at?_below (h : p ≠ []) : (below entries key).at? p = entries.at? (.text key :: p) := by
  obtain ⟨k, p, rfl⟩ := List.exists_cons_of_ne_nil h
  rw [Entries.at?_cons entries, below]
  split
  · next hget => rw [hget]; rfl
  · next hno =>
    cases hget : entries.get? (.text key) with
    | none => rfl
    | some v =>
      cases v with
      | mapping sub => exact absurd hget (hno sub)
      | _ => rfl

theorem at?_bindAt_cons_of_ne {k : Value} (h : k ≠ .text key) :
    (bindAt v (key :: path) entries).at? (k :: p) = entries.at? (k :: p) := by
  have hput : ∃ w, bindAt v (key :: path) entries = entries.put (.text key) w := by
    cases path with
    | nil => exact ⟨v, rfl⟩
    | cons key' path => exact ⟨_, bindAt_cons (List.cons_ne_nil _ _)⟩
  obtain ⟨w, hput⟩ := hput
  rw [hput]
  exact Entries.at?_cons_congr (Bindings.get?_put_of_ne rfl h.symm)

theorem at?_bindAt_cons_self (h : path ≠ []) :
    (bindAt v (key :: path) entries).at? (.text key :: p) =
      (bindAt v path (below entries key)).at? p := by
  rw [bindAt_cons h, Entries.at?_cons, Bindings.get?_put_self rfl]
  rfl

/-- The value is found where it is bound. -/
theorem at?_bindAt (h : path ≠ []) : (bindAt v path entries).at? (keys path) = some v := by
  induction path generalizing entries with
  | nil => exact absurd rfl h
  | cons key path ih =>
    cases path with
    | nil =>
      show Entries.at? (entries.put (.text key) v) [.text key] = some v
      rw [Entries.at?_cons, Bindings.get?_put_self rfl, Option.bind_some, Value.at?_nil]
    | cons key' path =>
      have hne : key' :: path ≠ [] := List.cons_ne_nil _ _
      exact (at?_bindAt_cons_self hne).trans (ih hne)

/-- On the way to it there are mappings. -/
theorem exists_at?_bindAt (h : p <+: keys path) (hne : p ≠ keys path) :
    ∃ sub, (bindAt v path entries).at? p = some (.mapping sub) := by
  induction path generalizing entries p with
  | nil => exact absurd (List.prefix_nil.mp h) hne
  | cons key path ih =>
    cases p with
    | nil => exact ⟨_, Entries.at?_nil _⟩
    | cons k p =>
      obtain ⟨rfl, hrest⟩ := List.cons_prefix_cons.mp h
      have hne : p ≠ keys path := fun heq => hne (congrArg _ heq)
      have hpath : path ≠ [] := by
        rintro rfl
        exact hne (List.prefix_nil.mp hrest)
      rw [at?_bindAt_cons_self hpath]
      exact ih hrest hne

/-- All that is elsewhere is as it was. -/
theorem at?_bindAt_of_unrelated (h : Unrelated p (keys path)) :
    (bindAt v path entries).at? p = entries.at? p := by
  induction path generalizing entries p with
  | nil => exact absurd (List.nil_prefix) h.2
  | cons key path ih =>
    cases p with
    | nil => exact absurd (List.nil_prefix) h.1
    | cons k p =>
      by_cases hkey : k = .text key
      · subst hkey
        have hrest : Unrelated p (keys path) :=
          ⟨fun hp => h.1 (List.cons_prefix_cons.mpr ⟨rfl, hp⟩),
            fun hp => h.2 (List.cons_prefix_cons.mpr ⟨rfl, hp⟩)⟩
        have hp : p ≠ [] := fun hnil => hrest.1 (hnil ▸ List.nil_prefix)
        have hpath : path ≠ [] := fun hnil => hrest.2 (hnil ▸ List.nil_prefix)
        rw [at?_bindAt_cons_self hpath, ih hrest, at?_below hp]
      · exact at?_bindAt_cons_of_ne hkey

end

/-! ## Bindings in turn -/

theorem overrideSection_of_open {value : String} (hopen : OpenSection entries sectionName)
    (h : path ≠ []) : overrideSection entries sectionName path value =
      .ok (bindAt (.text value) (sectionName :: path) entries) := by
  rw [bindAt_cons h, below, overrideSection]
  cases hget : entries.get? (.text sectionName) with
  | none => rfl
  | some v =>
    obtain ⟨sub, rfl⟩ := hopen v hget
    rfl

theorem Unrelated.symm {α : Type} {p q : List α} (h : Unrelated p q) : Unrelated q p := And.symm h

theorem unrelated_keys_iff {path' : List String} :
    Unrelated (keys path) (keys path') ↔ Unrelated path path' := by
  have hinj : Function.Injective Value.text := fun _ _ => Value.text.inj
  rw [Unrelated, Unrelated, keys, keys, List.prefix_map_iff_of_injective hinj,
    List.prefix_map_iff_of_injective hinj]

namespace Binds

variable {bound bound' : List (List String × String)} {t : List String × String}

theorem nil (entries : Entries) : Binds [] entries entries where
  bound _ ht := nomatch ht
  opened _ ht := nomatch ht
  kept _ _ := rfl

/-- A text that keeps out of the way of the others may be bound before them. -/
theorem cons (hne : t.1 ≠ []) (hapart : ∀ u ∈ bound, Unrelated t.1 u.1)
    (h : Binds bound (bindAt (.text t.2) t.1 entries) entries') :
    Binds (t :: bound) entries entries' where
  bound := by
    refine List.forall_mem_cons.mpr ⟨?_, h.bound⟩
    rw [h.kept _ fun u hu => unrelated_keys_iff.mpr (hapart u hu)]
    exact at?_bindAt hne
  opened := by
    refine List.forall_mem_cons.mpr ⟨fun p hp hp' => ?_, h.opened⟩
    -- what is on the way to the text may be on the way to others, but is not behind any of them
    have hbehind : ∀ u ∈ bound, ¬ keys u.1 <+: p := fun u hu hbegins =>
      (unrelated_keys_iff.mpr (hapart u hu)).2 (hbegins.trans hp)
    by_cases hway : ∃ u ∈ bound, p <+: keys u.1
    · obtain ⟨u, hu, hbegins⟩ := hway
      exact h.opened u hu p hbegins fun heq => hbehind u hu (heq ▸ List.prefix_rfl)
    · rw [h.kept p fun u hu => ⟨fun hbegins => hway ⟨u, hu, hbegins⟩, hbehind u hu⟩]
      exact exists_at?_bindAt hp hp'
  kept p hp := by
    obtain ⟨hfirst, hrest⟩ := List.forall_mem_cons.mp hp
    rw [h.kept p hrest]
    exact at?_bindAt_of_unrelated hfirst

theorem congr (h : Binds bound entries entries') (hmem : ∀ t, t ∈ bound' ↔ t ∈ bound) :
    Binds bound' entries entries' where
  bound t ht := h.bound t ((hmem t).mp ht)
  opened t ht := h.opened t ((hmem t).mp ht)
  kept p hp := h.kept p fun t ht => hp t ((hmem t).mpr ht)

/-- Texts that are bound leave one thing only. -/
theorem alike {other : Entries} (h : Binds bound entries entries')
    (h' : Binds bound entries other) : entries'.Alike other := by
  intro p
  by_cases hp : ∀ t ∈ bound, Unrelated p (keys t.1)
  · rw [h.kept p hp, h'.kept p hp]
  · simp only [not_forall, Unrelated, not_and_or, not_not] at hp
    obtain ⟨t, ht, hway | ⟨after, rfl⟩⟩ := hp
    · by_cases heq : p = keys t.1
      · rw [heq, h.bound t ht, h'.bound t ht]
      · obtain ⟨sub, hsub⟩ := h.opened t ht p hway heq
        obtain ⟨sub', hsub'⟩ := h'.opened t ht p hway heq
        rw [hsub, hsub']
        rfl
    · by_cases hafter : after = []
      · rw [hafter, List.append_nil, h.bound t ht, h'.bound t ht]
      · rw [Entries.at?_append_of_text (h.bound t ht) hafter,
          Entries.at?_append_of_text (h'.bound t ht) hafter]

end Binds

/-! ## All variables -/

theorem ne_nil_of_targetIn? {name : String} (h : targetIn? sectionName name = some path) :
    path ≠ [] := by
  obtain ⟨rest, -, rfl⟩ := Option.map_eq_some_iff.mp h
  have hsplit := isSplit_iff.mpr (Eq.refl (splitDoubled [] (Text.lowerChars rest)))
  exact fun hnil => hsplit.ne_nil (List.map_eq_nil_iff.mp hnil)

theorem mem_overridesIn {o : String × String × String × List String} : o ∈ overridesIn vars ↔
    (o.1, o.2.1) ∈ vars ∧ o.2.2.1 ∈ sections ∧ targetIn? o.2.2.1 o.1 = some o.2.2.2 := by
  simp only [overridesIn, overridesOf, List.mem_flatMap, List.mem_filterMap, Option.map_eq_some_iff]
  constructor
  · rintro ⟨sectionName, hsection, v, hv, path, hpath, rfl⟩
    exact ⟨hv, hsection, hpath⟩
  · rintro ⟨hv, hsection, hpath⟩
    exact ⟨_, hsection, _, hv, _, hpath, rfl⟩

/-- Overrides bind the texts of variables. -/
theorem mem_texts_iff {t : List String × String} : t ∈ texts vars ↔
    t ∈ (overridesIn vars).map fun o => (o.2.2.1 :: o.2.2.2, o.2.1) := by
  rw [mem_texts, List.mem_map]
  constructor
  · rintro ⟨v, hv, htarget, hvalue⟩
    obtain ⟨sectionName, hsection, path, hpath, hkeys⟩ := mem_targets.mp htarget
    refine ⟨(v.1, v.2, sectionName, path), mem_overridesIn.mpr ⟨hv, hsection, hpath⟩, ?_⟩
    exact Prod.ext hkeys.symm hvalue.symm
  · rintro ⟨o, ho, rfl⟩
    obtain ⟨hv, hsection, hpath⟩ := mem_overridesIn.mp ho
    exact ⟨_, hv, mem_targets.mpr ⟨_, hsection, _, hpath, rfl⟩, rfl⟩

/-- Variables that keep out of each other's way do so in the order in which they are applied. -/
theorem Apart.overridesIn (h : Apart vars) : (overridesIn vars).Pairwise fun o o' =>
    Unrelated (o.2.2.1 :: o.2.2.2) (o'.2.2.1 :: o'.2.2.2) := by
  rw [Settings.overridesIn, List.pairwise_flatMap]
  constructor
  · intro sectionName hsection
    rw [overridesOf, List.pairwise_filterMap]
    refine (List.pairwise_flatMap.mp h).2.imp fun {v w} hvw o ho o' ho' => ?_
    obtain ⟨path, hpath, rfl⟩ := Option.map_eq_some_iff.mp ho
    obtain ⟨path', hpath', rfl⟩ := Option.map_eq_some_iff.mp ho'
    have htarget := mem_targets.mpr ⟨sectionName, hsection, path, hpath, rfl⟩
    have htarget' := mem_targets.mpr ⟨sectionName, hsection, path', hpath', rfl⟩
    exact hvw _ (List.mem_map.mpr ⟨_, htarget, rfl⟩) _ (List.mem_map.mpr ⟨_, htarget', rfl⟩)
  · -- paths of different sections have different first keys
    have hsections : sections.Pairwise (· ≠ ·) := by decide
    refine hsections.imp fun {s s'} hne o ho o' ho' => ?_
    obtain ⟨v, -, hv⟩ := List.mem_filterMap.mp ho
    obtain ⟨path, -, rfl⟩ := Option.map_eq_some_iff.mp hv
    obtain ⟨w, -, hw⟩ := List.mem_filterMap.mp ho'
    obtain ⟨path', -, rfl⟩ := Option.map_eq_some_iff.mp hw
    exact ⟨fun hp => hne (List.cons_prefix_cons.mp hp).1,
      fun hp => hne (List.cons_prefix_cons.mp hp).1.symm⟩

theorem Apart.perm {vars' : Variables} (h : Apart vars) (hperm : vars'.Perm vars) : Apart vars' :=
  ((hperm.flatMap_right _).pairwise_iff Unrelated.symm).mpr h

theorem binds_applyAll {overrides : List (String × String × String × List String)}
    (hopen : ∀ o ∈ overrides, OpenSection entries o.2.2.1) (hne : ∀ o ∈ overrides, o.2.2.2 ≠ [])
    (hapart : overrides.Pairwise fun o o' =>
      Unrelated (o.2.2.1 :: o.2.2.2) (o'.2.2.1 :: o'.2.2.2)) :
    Binds (overrides.map fun o => (o.2.2.1 :: o.2.2.2, o.2.1)) entries
      (applyAll overrideSection entries overrides).settings := by
  induction overrides generalizing entries with
  | nil => exact .nil entries
  | cons o rest ih =>
    obtain ⟨name, value, sectionName, path⟩ := o
    obtain ⟨hfirst, hopen⟩ := List.forall_mem_cons.mp hopen
    obtain ⟨hpath, hne⟩ := List.forall_mem_cons.mp hne
    obtain ⟨happart, hrest⟩ := List.pairwise_cons.mp hapart
    have happly : overrideSection entries sectionName path value =
        .ok (bindAt (.text value) (sectionName :: path) entries) :=
      overrideSection_of_open hfirst hpath
    simp only [applyAll, happly, List.map_cons]
    have hopen' : ∀ o ∈ rest, OpenSection (bindAt (.text value) (sectionName :: path) entries)
        o.2.2.1 := fun o ho => (openSection_of_overrideSection happly).mpr (.inr (hopen o ho))
    exact .cons (List.cons_ne_nil _ _) (List.forall_mem_map.mpr happart) (ih hopen' hne hrest)

/-- What variables leave of settings. -/
theorem binds_override (hopen : ∀ s ∈ sections, OpenSection entries s) (hapart : Apart vars) :
    Binds (texts vars) entries (override vars entries).settings := by
  refine (binds_applyAll (fun o ho => ?_) (fun o ho => ?_) hapart.overridesIn).congr
    fun t => mem_texts_iff
  · exact hopen _ (mem_overridesIn.mp ho).2.1
  · exact ne_nil_of_targetIn? (mem_overridesIn.mp ho).2.2

/-- A variable of a section leads to the pieces of what follows its stem, in small letters. -/
theorem exists_targets_append (hsection : sectionName ∈ sections) (rest : String) :
    ∃ path, targets (variableStem sectionName ++ rest) = [sectionName :: path] ∧
      ∀ pieces : List String, IsSplit (Text.lower rest).toList (pieces.map String.toList) ↔
        pieces = path := by
  refine ⟨_, targets_append hsection rest, fun pieces => ?_⟩
  have htext : (Text.lower rest).toList = Text.lowerChars rest.toList := String.toList_ofList
  rw [htext, isSplit_iff]
  have hinv : Function.LeftInverse String.toList String.ofList := fun _ => String.toList_ofList
  have hinv' : Function.LeftInverse String.ofList String.toList := fun _ => String.ofList_toList
  exact ⟨fun h => by rw [← h, List.map_map, hinv'.comp_eq_id, List.map_id],
    fun h => by rw [h, List.map_map, hinv.comp_eq_id, List.map_id]⟩

theorem texts_perm {vars' : Variables} (h : vars'.Perm vars) (t : List String × String) :
    t ∈ texts vars ↔ t ∈ texts vars' :=
  (h.flatMap_right _).mem_iff.symm

/-- **Variables in any order** leave the same of settings that are a tree. -/
theorem override_alike {vars' : Variables} (hopen : ∀ s ∈ sections, OpenSection entries s)
    (hapart : Apart vars) (hperm : vars'.Perm vars) : (override vars' entries).fault = none ∧
      (override vars' entries).settings.Alike (override vars entries).settings := by
  refine ⟨fault_override_iff.mpr fun s hs _ => hopen s hs, ?_⟩
  have hbinds' := binds_override hopen (hapart.perm hperm)
  exact (hbinds'.congr (texts_perm hperm)).alike (binds_override hopen hapart)

end RoleSchema.Settings
