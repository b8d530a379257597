import Mathlib.Data.List.TakeWhile
import RoleSchema.Proofs.Data.Merge
import RoleSchema.Proofs.Result
import RoleSchema.Proofs.Settings.Check
import RoleSchema.Proofs.Settings.Overriding
import RoleSchema.Settings.Layer

/-!
# What is in the way of layers

Layers of settings are put together by merging, by overriding sections and by a check of the whole.
A fault on the way is expected if the settings themselves are at fault, as when they break a rule.
`Expected` says that a run meets no other fault; of each stage it holds under a condition on the
values that the stage is given, and only then.

* `expected_bind_iff`: a run is expected if its first step is, and all that may follow it.
* `expected_baseEntries_iff`: what the documents of the base file come to.
* `expected_layered_iff`: what comes on top of the base.
-/

namespace RoleSchema.Settings

open Files (Path)

variable {α β : Type}

/-! ## Expected faults -/

/-- If a run fails, then because the settings themselves are at fault. -/
def Expected (x : Reporting LoadFault α) : Prop :=
  ∀ fault, x.result = .error fault → fault.isExpected = true

section

variable {x : Reporting LoadFault α} {a : α} {fault : LoadFault}

theorem expected_of_ok (h : x.result = .ok a) : Expected x := by
  intro fault hfault
  rw [h] at hfault
  cases hfault

theorem expected_iff_of_error (h : x.result = .error fault) :
    Expected x ↔ fault.isExpected = true := by
  constructor
  · exact fun hx => hx fault h
  · intro hfault other hother
    cases h.symm.trans hother
    exact hfault

theorem expected_of_error (h : x.result = .error fault) (hfault : fault.isExpected = true) :
    Expected x := (expected_iff_of_error h).mpr hfault

theorem not_expected_of_error (h : x.result = .error fault) (hfault : fault.isExpected = false) :
    ¬ Expected x := by
  rw [expected_iff_of_error h, hfault]
  exact Bool.false_ne_true

theorem expected_pure (a : α) : Expected (pure a) := expected_of_ok rfl

/-- A run meets the faults of its first step and those of what follows. -/
theorem expected_bind_iff {f : α → Reporting LoadFault β} :
    Expected (x >>= f) ↔ Expected x ∧ ∀ a, x.result = .ok a → Expected (f a) := by
  constructor
  · intro h
    refine ⟨fun fault hfault => h fault ?_, fun a ha fault hfault => h fault ?_⟩
    · exact Reporting.result_bind_eq_error_iff.mpr (.inl hfault)
    · exact Reporting.result_bind_eq_error_iff.mpr (.inr ⟨a, ha, hfault⟩)
  · rintro ⟨hx, hf⟩ fault hfault
    rcases Reporting.result_bind_eq_error_iff.mp hfault with hfault | ⟨a, ha, hfault⟩
    · exact hx fault hfault
    · exact hf a ha fault hfault

theorem expected_ofExcept_bind_iff {y : Except LoadFault α} {f : α → Except LoadFault β} :
    Expected (Reporting.ofExcept (y >>= f)) ↔ Expected (Reporting.ofExcept y) ∧
      ∀ a, y = .ok a → Expected (Reporting.ofExcept (f a)) := by
  cases y with
  | ok a =>
    exact ⟨fun h => ⟨expected_of_ok rfl, fun _ heq => Except.ok.inj heq ▸ h⟩, fun h => h.2 a rfl⟩
  | error fault =>
    rw [expected_iff_of_error (x := Reporting.ofExcept (Except.error fault)) rfl]
    exact (expected_iff_of_error rfl).trans (and_iff_left nofun).symm

theorem expected_bind_of_ok (h : x.result = .ok a) {f : α → Reporting LoadFault β} :
    Expected (x >>= f) ↔ Expected (f a) := by
  unfold Expected
  rw [Reporting.result_bind_of_ok h]

theorem expected_bind_pure_iff {f : α → β} : Expected (x >>= fun a => pure (f a)) ↔ Expected x :=
  expected_bind_iff.trans (and_iff_left fun _ _ => expected_pure _)

/-- A stage that comes to `a` under a condition, and else meets an unexpected fault, passes on what
comes after it. -/
theorem expected_bind_iff_of_iff {p : Prop} {f : α → Reporting LoadFault β} (hx : Expected x ↔ p)
    (ha : p → x.result = .ok a) : Expected (x >>= f) ↔ p ∧ Expected (f a) := by
  rw [expected_bind_iff, hx]
  refine and_congr_right fun hp => ?_
  rw [ha hp]
  exact ⟨fun hall => hall a rfl, fun hfa _ heq => Except.ok.inj heq ▸ hfa⟩

end

/-! ## Merging -/

section

variable {base layer : Entries} {layers : List Entries} {documents : List Value}

/-- A merge in which nothing goes wrong comes to the merged entries. -/
theorem result_merged (h : (base.merge layer).Clean) :
    (merged base layer).result = .ok (base.merge layer).entries := by
  have hshown : ((base.merge layer).bound.takeWhile fun b => b.2.isShowable) =
      (base.merge layer).bound := List.takeWhile_eq_self_iff.mpr h.showable
  simp only [merged, hshown, Nat.lt_irrefl, if_false, h.finished]

theorem clean_of_expected_merged (h : Expected (merged base layer)) : (base.merge layer).Clean := by
  unfold Expected merged at h
  dsimp only at h
  split at h
  · exact absurd (h _ rfl) Bool.false_ne_true
  · next hshown =>
    split at h
    · next hstopped =>
      refine ⟨hstopped, List.takeWhile_eq_self_iff.mp ?_⟩
      exact (List.takeWhile_prefix _).eq_of_length_le (Nat.not_lt.mp hshown)
    · exact absurd (h _ rfl) Bool.false_ne_true

theorem expected_merged_iff (h : layer.Proper) :
    Expected (merged base layer) ↔ base.Mergeable layer := by
  rw [← Entries.clean_merge_iff h]
  exact ⟨clean_of_expected_merged, fun hclean => expected_of_ok (result_merged hclean)⟩

theorem result_merged_of_mergeable (h : layer.Proper) (hmergeable : base.Mergeable layer) :
    (merged base layer).result = .ok (base.merge layer).entries :=
  result_merged ((Entries.clean_merge_iff h).mpr hmergeable)

/-- Mappings can be merged one after the other, each into what those before have come to. -/
def MergeableAll (base : Entries) : List Entries → Prop
  | [] => True
  | layer :: rest => base.Mergeable layer ∧ MergeableAll (base.merge layer).entries rest

theorem expected_mergedAll_iff (h : ∀ layer ∈ layers, layer.Proper) :
    Expected (mergedAll base layers) ↔ MergeableAll base layers := by
  induction layers generalizing base with
  | nil => exact iff_of_true (expected_pure base) trivial
  | cons layer rest ih =>
    obtain ⟨hlayer, hrest⟩ := List.forall_mem_cons.mp h
    unfold mergedAll MergeableAll
    -- The others are merged into what the first has come to, which is known only if that went well.
    rw [← ih hrest]
    exact expected_bind_iff_of_iff (expected_merged_iff hlayer) (result_merged_of_mergeable hlayer)

theorem entries?_eq_some_iff {v : Value} : entries? v = some layer ↔ v = .mapping layer := by
  cases v with
  | mapping entries => exact ⟨fun h => by cases h; rfl, fun h => by cases h; rfl⟩
  | _ => exact iff_of_false nofun nofun

theorem mapM_entries?_eq_some_iff :
    documents.mapM entries? = some layers ↔ documents = layers.map .mapping := by
  induction documents generalizing layers with
  | nil => cases layers <;> simp
  | cons v documents ih =>
    rw [List.mapM_cons, Option.bind_eq_bind, Option.bind_eq_some_iff]
    simp only [Option.bind_eq_bind, Option.bind_eq_some_iff, entries?_eq_some_iff, ih,
      Option.pure_def, Option.some_inj]
    constructor
    · rintro ⟨first, rfl, rest, rfl, rfl⟩
      rfl
    · intro h
      cases layers with
      | nil => cases h
      | cons first rest =>
        obtain ⟨hv, hrest⟩ := List.cons.inj h
        exact ⟨first, hv, rest, hrest, rfl⟩

/-- What the documents of a base file say can be merged, in case they are mappings. -/
def Consistent (documents : List Value) : Prop :=
  ∀ first rest, (documents.filter fun v => !v.isEmpty) = (first :: rest).map .mapping →
    MergeableAll first rest

theorem expected_baseEntries_iff {path : Path}
    (h : ∀ entries : Entries, .mapping entries ∈ documents → entries.Proper) :
    Expected (baseEntries path documents) ↔ Consistent documents := by
  unfold baseEntries
  split
  · next hnone =>
    refine iff_of_true (expected_of_error rfl rfl) fun first rest hmappings => ?_
    rw [mapM_entries?_eq_some_iff.mpr hmappings] at hnone
    cases hnone
  · next hnil =>
    refine iff_of_true (expected_pure _) fun first rest hmappings => ?_
    rw [mapM_entries?_eq_some_iff.mpr hmappings] at hnil
    cases hnil
  · next first rest hsome =>
    have hmappings := mapM_entries?_eq_some_iff.mp hsome
    have hrest : ∀ layer ∈ rest, layer.Proper := by
      intro layer hlayer
      have hmem : .mapping layer ∈ (first :: rest).map Value.mapping :=
        List.mem_map_of_mem (List.mem_cons_of_mem first hlayer)
      rw [← hmappings] at hmem
      exact h layer (List.mem_filter.mp hmem).1
    rw [expected_mergedAll_iff hrest]
    refine ⟨fun hall first' rest' hmappings' => ?_, fun hall => hall first rest hmappings⟩
    have hsame := mapM_entries?_eq_some_iff.mpr hmappings'
    cases hsome.symm.trans hsame
    exact hall

end

/-! ## Layers on top of the base -/

section

variable {base entries : Entries} {document : Option Value} {vars : Variables}
  {codecs : Text.Codecs}

/-- What the base comes to with a document for the environment, where this is a mapping. -/
def withDocument (base : Entries) : Option Value → Entries
  | some (.mapping layer) => (base.merge layer).entries
  | _ => base

/-- Nothing is in the way of a document for the environment: if there is one, it is a mapping that
can be merged. -/
def TakesDocument (base : Entries) (document : Option Value) : Prop :=
  ∀ v, document = some v → ∃ layer, v = .mapping layer ∧ base.Mergeable layer

theorem expected_withEnvironment_iff
    (h : ∀ layer : Entries, document = some (.mapping layer) → layer.Proper) :
    Expected (withEnvironment base document) ↔ TakesDocument base document := by
  unfold withEnvironment TakesDocument
  split
  · exact iff_of_true (expected_pure base) nofun
  · next layer =>
    rw [expected_merged_iff (h layer rfl)]
    refine ⟨fun hm v hv => ⟨layer, (Option.some.inj hv).symm, hm⟩, fun hall => ?_⟩
    obtain ⟨layer', heq, hm⟩ := hall _ rfl
    cases heq
    exact hm
  · next v hno =>
    refine iff_of_false (not_expected_of_error rfl rfl) fun hall => ?_
    obtain ⟨layer, rfl, -⟩ := hall v rfl
    exact hno layer rfl

theorem result_withEnvironment
    (h : ∀ layer : Entries, document = some (.mapping layer) → layer.Proper)
    (htakes : TakesDocument base document) :
    (withEnvironment base document).result = .ok (withDocument base document) := by
  cases document with
  | none => rfl
  | some v =>
    obtain ⟨layer, rfl, hmergeable⟩ := htakes v rfl
    exact result_merged_of_mergeable (h layer rfl) hmergeable

theorem result_reported {o : Overridden α} (h : o.fault = none) :
    (reported o).result = .ok o.settings := by
  unfold reported
  rw [h]

theorem expected_reported_iff {o : Overridden α} : Expected (reported o) ↔ o.fault = none := by
  cases hfault : o.fault with
  | none => exact iff_of_true (expected_of_ok (result_reported hfault)) rfl
  | some fault =>
    have hresult : (reported o).result = .error (.overridden fault) := by
      unfold reported
      rw [hfault]
    exact iff_of_false (not_expected_of_error hresult rfl) nofun

theorem expected_checked_iff (codecs : Text.Codecs) :
    Expected (Reporting.ofExcept (checked codecs entries)) ↔ Readable entries := by
  rw [← not_aborts_read_iff codecs]
  unfold checked
  cases Settings.read codecs entries with
  | valid settings => exact iff_of_true (expected_of_ok rfl) (Verdict.not_aborts_valid settings)
  | invalid issues =>
    exact iff_of_true (expected_of_error rfl rfl) (Verdict.not_aborts_invalid issues)
  | aborted cause =>
    have haborts : (Verdict.aborted cause : Verdict Settings).Aborts := Verdict.aborts_aborted cause
    exact iff_of_false (not_expected_of_error rfl rfl) (not_not_intro haborts)

/-- Nothing is in the way of what comes on top of the base: a document for the environment can be
merged, the sections that variables lead to are open, and the whole can be read. -/
structure Fits (base : Entries) (document : Option Value) (vars : Variables) : Prop where
  merging : TakesDocument base document
  opens : ∀ sectionName ∈ sections, LeadsTo vars sectionName →
    OpenSection (withDocument base document) sectionName
  reading : Readable (override vars (withDocument base document)).settings

/-- **What comes on top of the base** meets only expected faults if nothing is in its way, and only
then. -/
theorem expected_layered_iff
    (h : ∀ layer : Entries, document = some (.mapping layer) → layer.Proper) :
    Expected (layered codecs base document vars) ↔ Fits base document vars := by
  have hvariables : Expected (withVariables vars (withDocument base document) >>= fun entries =>
      Reporting.ofExcept (checked codecs entries)) ↔
        (override vars (withDocument base document)).fault = none ∧
          Readable (override vars (withDocument base document)).settings := by
    rw [← expected_checked_iff codecs]
    exact expected_bind_iff_of_iff expected_reported_iff result_reported
  unfold layered
  rw [expected_bind_iff_of_iff (expected_withEnvironment_iff h) (result_withEnvironment h),
    hvariables, fault_override_iff]
  exact ⟨fun ⟨h₁, h₂, h₃⟩ => ⟨h₁, h₂, h₃⟩, fun ⟨h₁, h₂, h₃⟩ => ⟨h₁, h₂, h₃⟩⟩

end

end RoleSchema.Settings
