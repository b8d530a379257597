import RoleSchema.Proofs.Data.Unshared
import RoleSchema.Proofs.Settings.Simulation

/-!
# Variables in any order, in graphs

Aliases can put one mapping in two places of the settings. A text that a variable binds in it at the
one is then found at the other as well, also where another variable has bound a text before. Where
no mapping that keys lead to stands in a second place, variables do what they do in a tree. Lists
may be in any number of places.

* `BindsIn`: what variables leave of settings in a graph, path by path.
* `override_in_any_order`: variables that keep out of each other's way leave the same in any order.
* `Harbours.override_depends_on_order`: they do not where a mapping stands in several places.
-/

namespace RoleSchema.Settings

open RoleSchema.Graph (UnfoldsTo)

variable {g g' g'' : Graph} {root : Nat} {e e' entries : Entries} {used used' : Set Nat}
  {item : Item} {v : Value} {bound : List (List String × String)} {vars : Variables}
  {b : Bindings Item}

/-! ## What is left -/

/-- What texts that are bound leave of settings in a graph. -/
structure BindsIn (texts : List (List String × String)) (root : Item) (g g' : Graph) : Prop where
  /-- Each is found at its path. -/
  bound : ∀ t ∈ texts, g'.at? root (keys t.1) = some (.value (.text t.2))
  /-- On the way to it there are mappings. -/
  opened : ∀ t ∈ texts, ∀ p, p <+: keys t.1 → p ≠ keys t.1 →
    ∃ item, g'.at? root p = some item ∧ (g'.mappingAt? item).isSome = true
  /-- All that is elsewhere is as it was. -/
  kept : ∀ p, (∀ t ∈ texts, Unrelated p (keys t.1)) → g.Same g' (g.at? root p) (g'.at? root p)

namespace BindsIn

theorem congr {bound' : List (List String × String)} {root : Item} (h : BindsIn bound root g g')
    (hmem : ∀ t, t ∈ bound' ↔ t ∈ bound) : BindsIn bound' root g g' where
  bound t ht := h.bound t ((hmem t).mp ht)
  opened t ht := h.opened t ((hmem t).mp ht)
  kept p hp := h.kept p fun t ht => hp t ((hmem t).mpr ht)

/-- Texts that are bound leave one thing only. -/
theorem alike {root : Item} (h : BindsIn bound root g g') (h' : BindsIn bound root g g'') :
    g'.Alike g'' root := by
  intro p
  by_cases hp : ∀ t ∈ bound, Unrelated p (keys t.1)
  · exact (h.kept p hp).symm.trans (h'.kept p hp)
  · simp only [not_forall, Unrelated, not_and_or, not_not] at hp
    obtain ⟨t, ht, hway | ⟨after, rfl⟩⟩ := hp
    · by_cases heq : p = keys t.1
      · rw [heq, h.bound t ht, h'.bound t ht]
        exact .item (Graph.agrees_value _)
      · obtain ⟨item, hitem, hmapping⟩ := h.opened t ht p hway heq
        obtain ⟨item', hitem', hmapping'⟩ := h'.opened t ht p hway heq
        rw [hitem, hitem']
        exact .mappings hmapping hmapping'
    · rw [Graph.at?_append, Graph.at?_append, h.bound t ht, h'.bound t ht]
      cases after with
      | nil => exact .item (Graph.agrees_value _)
      | cons key after => exact .nothing

end BindsIn

/-! ## From trees to graphs -/

/-- A leaf from which the item can be told: a text is itself, and no other value or place is read as
one. -/
def token : Item → Value
  | .value (.text s) => .text s
  | .value v => .list [v]
  | .place n => .int (.ofNat n)

theorem isMapping_token (item : Item) : (token item).isMapping = false := by
  unfold token
  split <;> rfl

theorem token_injective : Function.Injective token := by
  intro x y h
  unfold token at h
  split at h <;> split at h <;> cases h <;> rfl

theorem eq_of_unfoldsTo_token {g₁ g₂ : Graph} {item₁ item₂ : Item} {used₁ used₂ : Set Nat}
    (h₁ : UnfoldsTo g₁ token item₁ v used₁) (h₂ : UnfoldsTo g₂ token item₂ v used₂)
    (hno : v.isMapping = false) : item₁ = item₂ :=
  token_injective ((h₁.leaf_eq hno).trans (h₂.leaf_eq hno).symm)

/-- What is bound in the tree of settings is bound in their graph. -/
theorem bindsIn_of_binds (hunshared : g.Unshared (.place root))
    (h : UnfoldsTo g token (.place root) (.mapping e) used)
    (hused : ∀ m ∈ used, ∃ ps, g.Leads (.place root) ps m)
    (h' : UnfoldsTo g' token (.place root) (.mapping e') used') (hkeeps : g.Keeps g' used)
    (hbinds : Binds bound e e') : BindsIn bound (.place root) g g' where
  bound t ht := by
    obtain ⟨item, _, hitem, hleaf⟩ := h'.exists_of_at? (hbinds.bound t ht)
    rw [hitem]
    exact congrArg some (token_injective (hleaf.leaf_eq rfl))
  opened t ht p hp hne := by
    obtain ⟨sub, hsub⟩ := hbinds.opened t ht p hp hne
    obtain ⟨item, _, hitem, hmapping⟩ := h'.exists_of_at? hsub
    exact ⟨item, hitem, hmapping.isSome_mappingAt?⟩
  kept p hp := by
    have hkept : e'.at? p = e.at? p := hbinds.kept p hp
    cases hv : e.at? p with
    | none =>
      rw [h.at?_eq_none hv, h'.at?_eq_none (hkept.trans hv)]
      exact .nothing
    | some v =>
      obtain ⟨item, _, hitem, hunfolds⟩ := h.exists_of_at? hv
      obtain ⟨item', _, hitem', hunfolds'⟩ := h'.exists_of_at? (hkept.trans hv)
      rw [hitem, hitem']
      have hmapping := hunfolds.isSome_mappingAt?
      cases hv : v.isMapping with
      | true => exact .mappings (hmapping.trans hv) (hunfolds'.isSome_mappingAt?.trans hv)
      | false =>
        obtain rfl := eq_of_unfoldsTo_token hunfolds hunfolds' hv
        rw [hv, Option.isSome_eq_false_iff, Option.isNone_iff_eq_none] at hmapping
        exact .item (hunshared.agrees hused hkeeps hitem hmapping)

/-- What variables leave of settings in a graph in which no mapping stands in two places. -/
theorem bindsIn_override (hget : g.get root = .mapping b) (hunshared : g.Unshared (.place root))
    (hopen : ∀ s ∈ sections, OpenAt g root s) (hapart : Apart vars) :
    (overrideGraph vars root g).fault = none ∧
      BindsIn (texts vars) (.place root) g (overrideGraph vars root g).settings := by
  obtain ⟨e, used, hunfolds, hused⟩ := hunshared.exists_unfoldsTo isMapping_token hget
  have hopen' : ∀ s ∈ sections, OpenSection e s := fun s hs => (openAt_iff hunfolds).mp (hopen s hs)
  have hsimulates : Simulates token g root used (overrideGraph vars root g) (override vars e) :=
    simulates_overrideGraph (fun _ => rfl) hunfolds
  obtain ⟨⟨⟨used', -, hunfolds'⟩, hkeeps⟩, -, hfault⟩ := hsimulates
  refine ⟨hfault.mpr (fault_override_iff.mpr fun s hs _ => hopen' s hs), ?_⟩
  exact bindsIn_of_binds hunshared hunfolds hused hunfolds' (keeps_of_withNew hkeeps)
    (binds_override hopen' hapart)

/-- **Variables in any order.** -/
theorem override_in_any_order :
    (∀ sectionName ∈ sections, ∀ rest, ∃ path,
      targets (variableStem sectionName ++ rest) = [sectionName :: path] ∧
        ∀ pieces : List String, IsSplit (Text.lower rest).toList (pieces.map String.toList) ↔
          pieces = path) ∧
    ((∀ sectionName ∈ sections, OpenSection entries sectionName) → Apart vars →
      Binds (texts vars) entries (override vars entries).settings ∧
        ∀ vars', vars'.Perm vars → (override vars' entries).fault = none ∧
          (override vars' entries).settings.Alike (override vars entries).settings) ∧
    (g.get root = .mapping b → g.Unshared (.place root) →
      (∀ sectionName ∈ sections, OpenAt g root sectionName) → Apart vars →
      BindsIn (texts vars) (.place root) g (overrideGraph vars root g).settings ∧
        ∀ vars', vars'.Perm vars → (overrideGraph vars' root g).fault = none ∧
          (overrideGraph vars' root g).settings.Alike (overrideGraph vars root g).settings
            (.place root)) := by
  refine ⟨fun s hs rest => exists_targets_append hs rest, fun hopen hapart => ?_,
    fun hget hunshared hopen hapart => ?_⟩
  · exact ⟨binds_override hopen hapart, fun vars' hperm => override_alike hopen hapart hperm⟩
  · obtain ⟨-, hbinds⟩ := bindsIn_override hget hunshared hopen hapart
    refine ⟨hbinds, fun vars' hperm => ?_⟩
    obtain ⟨hfault, hbinds'⟩ := bindsIn_override hget hunshared hopen (hapart.perm hperm)
    exact ⟨hfault, (hbinds'.congr (texts_perm hperm)).alike hbinds⟩

namespace Lighthouses

/-- Settings with a text where variables need a mapping. -/
def settings : Entries :=
  [(.text "global", .mapping
    [(.text "logging", .text "off"), (.text "name", .text "Eddystone")])]

/-- Variables of two sections, two of them below one key, and one that leads nowhere. -/
def environment : Variables :=
  [("ORMREL_GLOBAL_LOGGING__LEVEL", "DEBUG"), ("HOME", "/lighthouse"),
    ("ORMREL_GENERATOR_ENCODING", "ascii"), ("ORMREL_GLOBAL_LOGGING__FILE__PATH", "keeper.log")]

theorem texts_environment : texts environment =
    [(["global", "logging", "level"], "DEBUG"), (["generator", "encoding"], "ascii"),
      (["global", "logging", "file", "path"], "keeper.log")] := by
  decide

theorem apart_environment : Apart environment := by
  rw [Apart, texts_environment]
  unfold Unrelated
  decide

theorem openSection_settings : ∀ s ∈ sections, OpenSection settings s := by
  intro s hs v hv
  simp only [sections, List.mem_cons, List.not_mem_nil, or_false] at hs
  rcases hs with rfl | rfl | rfl <;> cases hv
  exact ⟨_, rfl⟩

/-- What the variables leave. -/
def applied : Entries :=
  [(.text "global", .mapping
      [(.text "logging", .mapping [(.text "level", .text "DEBUG"),
        (.text "file", .mapping [(.text "path", .text "keeper.log")])]),
      (.text "name", .text "Eddystone")]),
    (.text "generator", .mapping [(.text "encoding", .text "ascii")])]

theorem settings_override_environment : (override environment settings).settings = applied := by
  rfl

/-- Settings with a list that stands in two places. -/
def watches : Graph := ⟨#[.mapping [(.text "global", .place 1)],
  .mapping [(.text "logging", .value (.text "off")), (.text "keepers", .place 2),
    (.text "watch", .place 2)],
  .list [.value (.text "Ann"), .value (.text "Tom")]]⟩

theorem eq_of_follow_keepers {ps : List Nat} {n : Nat}
    (h : watches.follow (.place 2) ps = some (.place n)) : n = 2 := by
  match ps with
  | [] =>
    cases h
    rfl
  | [0] | [1] | 0 :: _ :: _ | 1 :: _ :: _ | (_ + 2) :: _ => cases h

theorem eq_of_follow_watches {ps : List Nat} {n : Nat}
    (h : watches.follow (.place 0) ps = some (.place n)) :
    ps = [] ∧ n = 0 ∨ ps = [0] ∧ n = 1 ∨ n = 2 := by
  match ps with
  | [] =>
    cases h
    exact .inl ⟨rfl, rfl⟩
  | [0] =>
    cases h
    exact .inr (.inl ⟨rfl, rfl⟩)
  | 0 :: 1 :: _ | 0 :: 2 :: _ => exact .inr (.inr (eq_of_follow_keepers h))
  | [0, 0] | 0 :: 0 :: _ :: _ | 0 :: (_ + 3) :: _ | (_ + 1) :: _ => cases h

theorem unshared_watches : watches.Unshared (.place 0) where
  places ps n h := by
    obtain ⟨-, rfl⟩ | ⟨-, rfl⟩ | rfl := eq_of_follow_watches h <;> decide
  once ps qs n hps hqs := by
    obtain ⟨b, hget⟩ := hps.get_mapping
    have hn : n ≠ 2 := by
      rintro rfl
      cases hget
    have hps := eq_of_follow_watches hps.follow
    have hqs := eq_of_follow_watches hqs
    obtain ⟨rfl, rfl⟩ | ⟨rfl, rfl⟩ := hps.imp id fun h => h.resolve_right hn
    · exact (hqs.resolve_right nofun).1.symm
    · exact ((hqs.resolve_left nofun).resolve_right nofun).1.symm

theorem openAt_watches : ∀ s ∈ sections, OpenAt watches 0 s := by
  intro s hs item hitem
  simp only [sections, List.mem_cons, List.not_mem_nil, or_false] at hs
  rcases hs with rfl | rfl | rfl <;> cases hitem
  rfl

theorem environment_in_any_order :
    (∀ s ∈ sections, OpenSection settings s) ∧ Apart environment ∧
      Binds (texts environment) settings applied ∧
        (∀ vars', vars'.Perm environment → (override vars' settings).fault = none ∧
          (override vars' settings).settings.Alike applied) ∧
      watches.Unshared (.place 0) ∧ (∀ s ∈ sections, OpenAt watches 0 s) ∧
      BindsIn (texts environment) (.place 0) watches
        (overrideGraph environment 0 watches).settings ∧
        ∀ vars', vars'.Perm environment → (overrideGraph vars' 0 watches).fault = none ∧
          (overrideGraph vars' 0 watches).settings.Alike
            (overrideGraph environment 0 watches).settings (.place 0) := by
  obtain ⟨-, htree, hgraph⟩ := @override_in_any_order watches 0 settings environment _
  obtain ⟨hbinds, hany⟩ := htree openSection_settings apart_environment
  rw [settings_override_environment] at hbinds hany
  exact ⟨openSection_settings, apart_environment, hbinds, hany, unshared_watches, openAt_watches,
    hgraph rfl unshared_watches openAt_watches apart_environment⟩

end Lighthouses

namespace Harbours

/-- Settings with a mapping that stands in three places. -/
def lamps : Graph := ⟨#[.mapping [(.text "global", .place 1)],
  .mapping [(.text "port", .place 2), (.text "starboard", .place 2), (.text "mast", .place 2)],
  .mapping [(.text "colour", .value (.text "white"))]]⟩

/-- Variables for two of the places. -/
def colours : Variables :=
  [("ORMREL_GLOBAL_PORT__COLOUR", "red"), ("ORMREL_GLOBAL_STARBOARD__COLOUR", "green")]

/-- The colour of a lamp. -/
def colourOf (g : Graph) (lamp : String) : Option Item :=
  g.at? (.place 0) (keys ["global", lamp, "colour"])

theorem texts_colours : texts colours =
    [(["global", "port", "colour"], "red"), (["global", "starboard", "colour"], "green")] := by
  decide

theorem apart_colours : Apart colours := by
  rw [Apart, texts_colours]
  unfold Unrelated
  decide

theorem openAt_lamps : ∀ s ∈ sections, OpenAt lamps 0 s := by
  intro s hs item hitem
  simp only [sections, List.mem_cons, List.not_mem_nil, or_false] at hs
  rcases hs with rfl | rfl | rfl <;> cases hitem
  rfl

/-- Where a mapping stands in several places, a text is not found where it was bound, what is
elsewhere does not stay as it was, and the order of the variables matters. -/
theorem override_depends_on_order :
    (∀ s ∈ sections, OpenAt lamps 0 s) ∧ Apart colours ∧ colours.reverse.Perm colours ∧
      ¬ (overrideGraph colours.reverse 0 lamps).settings.Alike
        (overrideGraph colours 0 lamps).settings (.place 0) ∧
      colourOf (overrideGraph colours 0 lamps).settings "port" = some (.value (.text "green")) ∧
      colourOf lamps "mast" = some (.value (.text "white")) ∧
      colourOf (overrideGraph colours 0 lamps).settings "mast" = some (.value (.text "green")) := by
  refine ⟨openAt_lamps, apart_colours, List.reverse_perm _, fun halike => ?_, rfl, rfl, rfl⟩
  have hred : colourOf (overrideGraph colours.reverse 0 lamps).settings "port" =
      some (.value (.text "red")) := rfl
  have hgreen : colourOf (overrideGraph colours 0 lamps).settings "port" =
      some (.value (.text "green")) := rfl
  have hport := halike (keys ["global", "port", "colour"])
  unfold colourOf at hred hgreen
  rw [hgreen] at hport
  have heq := hred.symm.trans hport.eq_of_value
  simp at heq

end Harbours

end RoleSchema.Settings
