import RoleSchema.Proofs.Schema.Filenames
import RoleSchema.Settings.Basic

/-!
# Paths of log files

A template of the path of a log file is checked when the settings are read, and filled when logging
begins. The check passes over braces with nothing between them, and over braces that are alone. A
template with such braces is accepted, and then there is no path, or one in which doubled braces
have become single ones. As a path has all the braces of its text, this is not the path that the
template says.

* `Files.Path.braces_ofText`: the braces of a path.
* `mem_of_readPathTemplate`: the placeholders of a template that is accepted.
* `resolvedPath_eq_iff`: which of these templates lead to the path that they say.
-/

namespace RoleSchema

/-! ## Braces of paths -/

namespace Text

/-- The separator being no brace, the pieces of a text have all its braces. -/
theorem braces_splitOn {separator : Char} (h : ¬ isBrace separator = true) (cs : List Char) :
    braces (splitOn separator cs).flatten = braces cs := by
  induction cs with
  | nil => rfl
  | cons c rest ih =>
    rw [splitOn]
    split
    · exact absurd ‹_› (splitOn_ne_nil separator rest)
    · next piece pieces hpieces =>
      rw [hpieces, List.flatten_cons] at ih
      split
      · next hc =>
        subst hc
        rw [braces_cons_of_other h, List.flatten_cons, List.flatten_cons, List.nil_append, ih]
      · rw [List.flatten_cons, List.cons_append]
        simp only [braces, List.countP_cons] at ih ⊢
        rw [ih]

end Text

namespace Files

open Text (braces splitOn braces_append)

/-- How many braces there are in a path. -/
def Path.braces (p : Path) : Nat := Text.braces (p.parts.flatMap String.toList)

/-- What is no part of a path has no braces. -/
theorem braces_filter_isPart (pieces : List (List Char)) :
    braces (pieces.filter isPart).flatten = braces pieces.flatten := by
  induction pieces with
  | nil => rfl
  | cons piece pieces ih =>
    by_cases hpart : isPart piece = true
    · rw [List.filter_cons_of_pos hpart, List.flatten_cons, List.flatten_cons, braces_append, ih,
        braces_append]
    · have hempty : piece = [] ∨ piece = ['.'] := by
        simpa [isPart, or_iff_not_imp_left] using hpart
      rw [List.filter_cons_of_neg hpart, ih, List.flatten_cons, braces_append]
      rcases hempty with rfl | rfl <;> exact (Nat.zero_add _).symm

/-- A path has all the braces of its text. -/
theorem Path.braces_ofText (s : String) : (Path.ofText s).braces = Text.braces s.toList := by
  have hslash : ¬ Text.isBrace '/' = true := Bool.false_ne_true
  have hparts : (Path.ofText s).parts.flatMap String.toList =
      ((splitOn '/' s.toList).filter isPart).flatten := by
    simp [ofText, List.flatMap_def, Function.comp_def]
  rw [braces, hparts, braces_filter_isPart, Text.braces_splitOn hslash]

end Files

namespace Settings

open Files (Path)
open Text (placeholders substitute)

/-! ## Templates of paths -/

/-- A template of a path with what an environment and a time give for its placeholders, everything
else being as it was. -/
def withPathValues (environment : String) (now : Moment) (template : String) : String :=
  String.ofList (substitute (pathValues environment now) template.toList)

/-- A template of a path without its placeholders. -/
def withoutPlaceholders (template : String) : String :=
  String.ofList (substitute (pathPlaceholders.map fun name => (name, "")) template.toList)

/-- A template that is accepted has no placeholders but those of paths. -/
theorem mem_of_readPathTemplate {v : Value} {template : String}
    (h : readPathTemplate v = .valid template) :
    ∀ p ∈ placeholders false template, p ∈ pathPlaceholders := by
  obtain ⟨s, -, hs⟩ := Verdict.andThen_eq_valid_iff.mp h
  obtain ⟨hall, rfl⟩ := Verdict.require_eq_valid_iff.mp hs
  exact fun p hp => List.contains_iff_mem.mp (List.all_eq_true.mp hall p hp)

theorem arePlain_pathValues (environment : String) (now : Moment) :
    Text.ArePlain (pathValues environment now) := by
  have hnames : ∀ name ∈ pathPlaceholders, name ≠ "" ∧ name.toList.all Char.isAlpha = true := by
    decide
  intro v hv
  obtain ⟨hname, hletters⟩ := hnames v.1 (List.mem_map_of_mem hv)
  exact ⟨hname, List.all_eq_true.mp hletters⟩

/-- **Where an accepted template leads to.** In an environment and at a time, the path of the log
file is that of the template with the values of its placeholders, exactly if the template has no
brace outside of its placeholders. -/
theorem resolvedPath_eq_iff {v : Value} {f : FileLog} (h : readPathTemplate v = .valid f.path)
    (environment : String) (now : Moment) :
    f.resolvedPath environment now = .ok (.ofText (withPathValues environment now f.path)) ↔
      HasNoBrace (withoutPlaceholders f.path) := by
  have hbraces : ∀ s t, Path.ofText s = Path.ofText t →
      Text.braces s.toList = Text.braces t.toList := fun s t hst => by
    rw [← Path.braces_ofText, ← Path.braces_ofText, hst]
  rw [HasNoBrace, withoutPlaceholders, String.toList_ofList]
  exact Text.map_fill_eq_iff (arePlain_pathValues environment now) hbraces
    (mem_of_readPathTemplate h)

namespace Observatories

/-- A night. -/
def night : Moment := { day := ⟨2024, 3, 9⟩, hour := 23, minute := 4, second := 5 }

/-- A log file of a directory for each environment. -/
def nightly : FileLog := { path := "logs/\x7benvironment\x7d/\x7bdatetime\x7d.log" }

/-- Braces with nothing between them. -/
def unnamed : FileLog := { path := "logs/\x7b\x7d.log" }

/-- A template with empty braces is accepted, and then no path can be formed. -/
theorem resolvedPath_unnamed :
    readPathTemplate (.text unnamed.path) = .valid unnamed.path ∧
      unnamed.resolvedPath "test" night = .error .unnamed ∧
      withPathValues "test" night unnamed.path = "logs/\x7b\x7d.log" := by
  refine ⟨rfl, rfl, ?_⟩
  decide

theorem resolvedPath_nightly : readPathTemplate (.text nightly.path) = .valid nightly.path ∧
    nightly.resolvedPath "test" night = .ok (.ofText "logs/test/20240309_230405.log") := by
  have haccepted : readPathTemplate (.text nightly.path) = .valid nightly.path := rfl
  have hbrace : HasNoBrace (withoutPlaceholders nightly.path) := by decide
  have hpath := (resolvedPath_eq_iff haccepted "test" night).mpr hbrace
  have htext : withPathValues "test" night nightly.path = "logs/test/20240309_230405.log" := by
    decide
  exact ⟨haccepted, htext ▸ hpath⟩

end Observatories

end Settings

end RoleSchema
