import RoleSchema.Proofs.Settings.Check
import RoleSchema.Proofs.Text.Template
import RoleSchema.Schema

/-!
# File names of schemas

A template of file names is checked when the settings are read, and filled for each concept. A
template that is accepted may have braces outside of its placeholders. Then no concept has the file
name that the template says; without such braces, every concept has it.

* `withConcept`: the file name that a template says.
* `eq_concept_of_readFilenameTemplate`: the placeholders of a template that is accepted.
* `filenameFor_eq_withConcept_iff`: which of these templates are filled as they say.
-/

namespace RoleSchema

open Settings (readFilenameTemplate)
open Text (placeholders substitute fill_eq_substitute_iff lower)

/-- A template of file names with a text in place of each placeholder of the concept, everything
else being as it was. -/
def withConcept (text template : String) : String :=
  String.ofList (substitute [("concept", text)] template.toList)

/-- A text without braces. -/
def HasNoBrace (text : String) : Prop := ∀ c ∈ text.toList, c ≠ '{' ∧ c ≠ '}'

instance (text : String) : Decidable (HasNoBrace text) := List.decidableBAll _ text.toList

/-- The concept is the only placeholder of a template that is accepted. -/
theorem eq_concept_of_readFilenameTemplate {v : Value} {template : String}
    (h : readFilenameTemplate v = .valid template) :
    ∀ p ∈ placeholders true template, p = "concept" := by
  obtain ⟨s, -, hs⟩ := Verdict.andThen_eq_valid_iff.mp h
  split at hs
  · obtain ⟨hall, rfl⟩ := Verdict.require_eq_valid_iff.mp hs
    exact fun p hp => of_decide_eq_true (List.all_eq_true.mp hall p hp)
  · cases hs

/-- **What an accepted template of file names does.** A concept has a file name, and this is the
template with the name of the concept in small letters in place of each placeholder, exactly if the
template has no brace outside of its placeholders. -/
theorem filenameFor_eq_withConcept_iff {v : Value} {template : String}
    (h : readFilenameTemplate v = .valid template) (concept : String) :
    filenameFor template concept = .ok (withConcept (lower concept) template) ↔
      HasNoBrace (withConcept "" template) := by
  have hplain : Text.ArePlain [("concept", lower concept)] := by
    intro v hv
    obtain rfl := List.mem_singleton.mp hv
    have hletters : "concept".toList.all Char.isAlpha = true := by decide
    exact ⟨by simp, List.all_eq_true.mp hletters⟩
  have hnames : ∀ p ∈ placeholders true template, p ∈ [("concept", lower concept)].map Prod.fst :=
    fun p hp => List.mem_singleton.mpr (eq_concept_of_readFilenameTemplate h p hp)
  rw [HasNoBrace, withConcept, withConcept, String.toList_ofList]
  exact fill_eq_substitute_iff hplain hnames

namespace Operas

/-- The concept in the name of a directory and in that of a file. -/
def nested : String := "\x7bconcept\x7d/\x7bconcept\x7d_schema.rel"

/-- One brace too many after the placeholder. -/
def unbalanced : String := "\x7bconcept\x7d\x7d.rel"

/-- A brace that closes nothing is accepted, and then no file name can be formed. -/
theorem filenameFor_unbalanced : readFilenameTemplate (.text unbalanced) = .valid unbalanced ∧
    filenameFor unbalanced "Opera" = .error .loneClosing ∧
    withConcept (lower "Opera") unbalanced = "opera\x7d.rel" := by
  refine ⟨rfl, rfl, ?_⟩
  decide

/-- The concept stands in both places. -/
theorem filenameFor_nested : readFilenameTemplate (.text nested) = .valid nested ∧
    filenameFor nested "Opera" = .ok "opera/opera_schema.rel" := by
  have haccepted : readFilenameTemplate (.text nested) = .valid nested := rfl
  have hbrace : HasNoBrace (withConcept "" nested) := by decide
  have hfile := (filenameFor_eq_withConcept_iff haccepted "Opera").mpr hbrace
  have hname : withConcept (lower "Opera") nested = "opera/opera_schema.rel" := by decide
  exact ⟨haccepted, hname ▸ hfile⟩

end Operas

end RoleSchema
