import RoleSchema.Proofs.Data.Merge
import RoleSchema.Settings.Environment

/-!
# Where overrides are stopped

A variable binds a text below a section, which must be a mapping or not be there. Binding it makes
the section a mapping and leaves all others as they are. So the variables of an environment can be
applied exactly if each section that one of them leads to is open in the settings as they were.

* `openSection_of_overrideSection`: what one variable leaves open.
* `fault_override_iff`: when all variables can be applied.
-/

namespace RoleSchema.Settings

variable {entries entries' : Entries} {sectionName other : String} {path : List String}
  {value : String} {vars : Variables}

/-- A section in which keys can be bound: it is a mapping or not there. -/
def OpenSection (entries : Entries) (sectionName : String) : Prop :=
  ∀ v, entries.get? (.text sectionName) = some v → ∃ sub, v = .mapping sub

/-- A variable leads to a section. -/
def LeadsTo (vars : Variables) (sectionName : String) : Prop :=
  ∃ v ∈ vars, (targetIn? sectionName v.1).isSome = true

/-! ## One variable -/

/-- A variable can be applied exactly if its section is open. -/
theorem exists_overrideSection_iff :
    (∃ entries', overrideSection entries sectionName path value = .ok entries') ↔
      OpenSection entries sectionName := by
  unfold overrideSection OpenSection
  split
  · next hnone => exact iff_of_true ⟨_, rfl⟩ fun v hv => by rw [hnone] at hv; cases hv
  · next sub hsub =>
    refine iff_of_true ⟨_, rfl⟩ fun v hv => ⟨sub, ?_⟩
    exact Option.some.inj (hv.symm.trans hsub)
  · next v hno hv =>
    refine iff_of_false (fun ⟨_, h⟩ => nomatch h) fun hopen => ?_
    obtain ⟨sub, rfl⟩ := hopen v hv
    exact hno sub rfl

/-- What a variable binds is a mapping, under the key of its section. -/
theorem eq_put_of_overrideSection
    (h : overrideSection entries sectionName path value = .ok entries') :
    ∃ sub, entries' = entries.put (.text sectionName) (.mapping sub) := by
  unfold overrideSection at h
  split at h
  · exact ⟨_, (Except.ok.inj h).symm⟩
  · exact ⟨_, (Except.ok.inj h).symm⟩
  · cases h

/-- The section of a variable is open afterwards, and any other section if it was so before. -/
theorem openSection_of_overrideSection
    (h : overrideSection entries sectionName path value = .ok entries') :
    OpenSection entries' other ↔ other = sectionName ∨ OpenSection entries other := by
  obtain ⟨sub, rfl⟩ := eq_put_of_overrideSection h
  have hkey : (Value.text sectionName).isText = true := rfl
  by_cases hsame : other = sectionName
  · subst hsame
    refine iff_of_true (fun v hv => ⟨sub, ?_⟩) (.inl rfl)
    exact Option.some.inj (hv.symm.trans (Bindings.get?_put_self hkey))
  · have hne : Value.text sectionName ≠ .text other := fun heq => hsame (Value.text.inj heq).symm
    unfold OpenSection
    rw [Bindings.get?_put_of_ne hkey hne, or_iff_right hsame]

/-! ## All variables -/

/-- Overrides can be applied one after the other exactly if the section of each is open at first. -/
theorem fault_applyAll_iff {overrides : List (String × String × String × List String)} :
    (applyAll overrideSection entries overrides).fault = none ↔
      ∀ o ∈ overrides, OpenSection entries o.2.2.1 := by
  induction overrides generalizing entries with
  | nil => exact iff_of_true rfl fun _ ho => absurd ho List.not_mem_nil
  | cons o rest ih =>
    obtain ⟨name, value, sectionName, path⟩ := o
    rw [List.forall_mem_cons]
    unfold applyAll
    cases happly : overrideSection entries sectionName path value with
    | error fault =>
      refine iff_of_false (fun h => nomatch h) fun h => ?_
      obtain ⟨entries', hok⟩ : ∃ entries', overrideSection entries sectionName path value =
          .ok entries' := exists_overrideSection_iff.mpr h.1
      rw [happly] at hok
      cases hok
    | ok entries' =>
      have hopen : OpenSection entries sectionName := exists_overrideSection_iff.mp ⟨_, happly⟩
      -- The variable has opened no section that was not open before: its own one was.
      have hrest : (∀ o ∈ rest, OpenSection entries' o.2.2.1) ↔
          ∀ o ∈ rest, OpenSection entries o.2.2.1 := by
        refine forall₂_congr fun o _ => (openSection_of_overrideSection happly).trans ?_
        exact or_iff_right_of_imp fun hsame => hsame ▸ hopen
      exact ih.trans (hrest.trans (and_iff_right hopen).symm)

/-- **All variables can be applied** exactly if the sections that they lead to are open. -/
theorem fault_override_iff : (override vars entries).fault = none ↔
    ∀ sectionName ∈ sections, LeadsTo vars sectionName → OpenSection entries sectionName := by
  rw [override, fault_applyAll_iff]
  constructor
  · rintro hall sectionName hsection ⟨v, hv, htarget⟩
    obtain ⟨path, hpath⟩ := Option.isSome_iff_exists.mp htarget
    refine hall (v.1, v.2, sectionName, path) (List.mem_flatMap.mpr ⟨sectionName, hsection, ?_⟩)
    exact List.mem_filterMap.mpr ⟨v, hv, by rw [hpath]; rfl⟩
  · rintro hall o ho
    obtain ⟨sectionName, hsection, ho⟩ := List.mem_flatMap.mp ho
    obtain ⟨v, hv, hov⟩ := List.mem_filterMap.mp ho
    obtain ⟨path, hpath, rfl⟩ := Option.map_eq_some_iff.mp hov
    exact hall sectionName hsection ⟨v, hv, Option.isSome_iff_exists.mpr ⟨path, hpath⟩⟩

end RoleSchema.Settings
