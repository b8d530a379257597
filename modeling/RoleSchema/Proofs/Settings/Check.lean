import RoleSchema.Settings.Check

/-!
# Where checking is stopped

Settings that are checked come to a verdict with all that is wrong with them, except in two cases: a
key of theirs is no text, or the output directory is no text. No other field can end the reading.

* `Verdict.aborts_seq_iff`: one verdict after another ends the reading if one of them does.
* `Settings.aborts_read_iff`: which settings end it.

A value passes its checks if it passes each of them.

* `Verdict.andThen_eq_valid_iff`, `Verdict.require_eq_valid_iff`: on what a check comes to a value.
-/

namespace RoleSchema

namespace Verdict

variable {α β : Type} {x : Verdict α}

/-- The reading has ended at once. -/
def Aborts (x : Verdict α) : Prop := ∃ cause, x = .aborted cause

theorem not_aborts_valid (a : α) : ¬ (valid a).Aborts := by
  rintro ⟨cause, h⟩
  cases h

theorem not_aborts_invalid (issues : List Issue) : ¬ (invalid issues : Verdict α).Aborts := by
  rintro ⟨cause, h⟩
  cases h

theorem aborts_aborted (cause : Abort) : (aborted cause : Verdict α).Aborts := ⟨cause, rfl⟩

theorem not_aborts_rejected (problem : Problem) (v : Value) :
    ¬ (rejected problem v : Verdict α).Aborts := not_aborts_invalid _

theorem not_aborts_require (rule : Rule) (v : Value) (holds : Bool) (a : α) :
    ¬ (require rule v holds a).Aborts := by
  unfold require
  split
  · exact not_aborts_valid a
  · exact not_aborts_rejected _ v

theorem aborts_map_iff {f : α → β} : (f <$> x).Aborts ↔ x.Aborts := by
  cases x with
  | valid a => exact iff_of_false (not_aborts_valid _) (not_aborts_valid _)
  | invalid issues => exact iff_of_false (not_aborts_invalid _) (not_aborts_invalid _)
  | aborted cause => exact iff_of_true (aborts_aborted _) (aborts_aborted _)

theorem aborts_seq_iff {f : Verdict (α → β)} : (f <*> x).Aborts ↔ f.Aborts ∨ x.Aborts := by
  cases f with
  | aborted cause => exact iff_of_true (aborts_aborted cause) (.inl (aborts_aborted _))
  | valid f =>
    rw [or_iff_right (not_aborts_valid f)]
    cases x with
    | valid a => exact iff_of_false (not_aborts_valid _) (not_aborts_valid _)
    | invalid issues => exact iff_of_false (not_aborts_invalid _) (not_aborts_invalid _)
    | aborted cause => exact iff_of_true (aborts_aborted _) (aborts_aborted _)
  | invalid issues =>
    rw [or_iff_right (not_aborts_invalid issues)]
    cases x with
    | valid a => exact iff_of_false (not_aborts_invalid _) (not_aborts_valid _)
    | invalid more => exact iff_of_false (not_aborts_invalid _) (not_aborts_invalid _)
    | aborted cause => exact iff_of_true (aborts_aborted _) (aborts_aborted _)

theorem aborts_below_iff {key : String} : (below key x).Aborts ↔ x.Aborts := by
  cases x with
  | valid a => exact Iff.rfl
  | invalid issues => exact iff_of_false (not_aborts_invalid _) (not_aborts_invalid _)
  | aborted cause => exact Iff.rfl

theorem not_aborts_andThen (hx : ¬ x.Aborts) {f : α → Verdict β} (hf : ∀ a, ¬ (f a).Aborts) :
    ¬ (x.andThen f).Aborts := by
  cases x with
  | valid a => exact hf a
  | invalid issues => exact not_aborts_invalid _
  | aborted cause => exact absurd (aborts_aborted cause) hx

/-! ## Passing -/

theorem andThen_eq_valid_iff {f : α → Verdict β} {b : β} :
    x.andThen f = .valid b ↔ ∃ a, x = .valid a ∧ f a = .valid b := by
  cases x with
  | valid a => simp [andThen]
  | invalid issues => simp [andThen]
  | aborted cause => simp [andThen]

theorem require_eq_valid_iff {rule : Rule} {v : Value} {holds : Bool} {a b : α} :
    require rule v holds a = .valid b ↔ holds = true ∧ a = b := by
  cases holds with
  | true => simp [require]
  | false => simp [require, rejected]

end Verdict

namespace Settings

open Verdict

variable {α : Type} {e : Entries} {key name : String} {v : Value}

/-! ## Fields -/

/-- A field ends the reading exactly if it is bound to a value that does. -/
theorem aborts_field_iff {default : α} {read : Value → Verdict α} :
    (field e key default read).Aborts ↔ ∃ v, e.get? (.text key) = some v ∧ (read v).Aborts := by
  unfold field
  cases e.get? (.text key) with
  | none => exact iff_of_false (not_aborts_valid _) fun ⟨_, h, _⟩ => nomatch h
  | some v => exact aborts_below_iff.trans ⟨fun h => ⟨v, rfl, h⟩, fun ⟨_, rfl, h⟩ => h⟩

/-- A field whose values never end the reading. -/
theorem not_aborts_field {default : α} {read : Value → Verdict α}
    (h : ∀ v, ¬ (read v).Aborts) : ¬ (field e key default read).Aborts := fun hfield =>
  have ⟨v, _, hv⟩ := aborts_field_iff.mp hfield
  h v hv

/-- A structure ends the reading exactly if it is given by a mapping that does. -/
theorem aborts_readMapping_iff {read : Entries → Verdict α} :
    (readMapping name read v).Aborts ↔ ∃ sub, v = .mapping sub ∧ (read sub).Aborts := by
  unfold readMapping
  split
  · exact ⟨fun h => ⟨_, rfl, h⟩, fun ⟨_, heq, h⟩ => by cases heq; exact h⟩
  · next hno => exact iff_of_false (not_aborts_rejected _ _) fun ⟨sub, h, _⟩ => hno sub h

theorem not_aborts_readMapping {read : Entries → Verdict α} (h : ∀ sub, ¬ (read sub).Aborts) :
    ¬ (readMapping name read v).Aborts := fun hmapping =>
  have ⟨sub, _, hsub⟩ := aborts_readMapping_iff.mp hmapping
  h sub hsub

theorem not_aborts_readText (v : Value) : ¬ (readText v).Aborts := by
  unfold readText
  split
  · exact not_aborts_valid _
  · split
    · exact not_aborts_valid _
    · exact not_aborts_rejected _ _
  · exact not_aborts_rejected _ _
  · exact not_aborts_rejected _ _

theorem not_aborts_readBoolean (v : Value) : ¬ (readBoolean v).Aborts := by
  unfold readBoolean
  split
  · exact not_aborts_valid _
  · exact not_aborts_rejected _ _

theorem not_aborts_readPathTemplate (v : Value) : ¬ (readPathTemplate v).Aborts :=
  not_aborts_andThen (not_aborts_readText v) fun _ => not_aborts_require _ _ _ _

theorem not_aborts_readRotation (v : Value) : ¬ (readRotation v).Aborts :=
  not_aborts_andThen (not_aborts_readText v) fun _ => not_aborts_require _ _ _ _

theorem not_aborts_readRetention (v : Value) : ¬ (readRetention v).Aborts :=
  not_aborts_andThen (not_aborts_readText v) fun _ => not_aborts_require _ _ _ _

theorem not_aborts_readNamespace (v : Value) : ¬ (readNamespace v).Aborts :=
  not_aborts_andThen (not_aborts_readText v) fun _ => not_aborts_require _ _ _ _

theorem not_aborts_readConsoleFormat (v : Value) : ¬ (readConsoleFormat v).Aborts := by
  refine not_aborts_andThen (not_aborts_readText v) fun s => ?_
  split
  · exact not_aborts_valid _
  · split
    · exact not_aborts_valid _
    · exact not_aborts_rejected _ _

theorem not_aborts_readLogLevel (v : Value) : ¬ (readLogLevel v).Aborts := by
  refine not_aborts_andThen (not_aborts_readText v) fun s => ?_
  split
  · exact not_aborts_valid _
  · exact not_aborts_rejected _ _

theorem not_aborts_readFilenameTemplate (v : Value) : ¬ (readFilenameTemplate v).Aborts := by
  refine not_aborts_andThen (not_aborts_readText v) fun s => ?_
  split
  · exact not_aborts_require _ _ _ _
  · exact not_aborts_rejected _ _

theorem not_aborts_readEncoding (codecs : Text.Codecs) (v : Value) :
    ¬ (readEncoding codecs v).Aborts := by
  refine not_aborts_andThen (not_aborts_readText v) fun s => ?_
  split
  · exact not_aborts_rejected _ _
  · split
    · exact not_aborts_valid _
    · exact not_aborts_rejected _ _

/-- A directory that is no text ends the reading. -/
theorem aborts_readOutputDir_iff : (readOutputDir v).Aborts ↔ v.isText = false := by
  unfold readOutputDir
  split
  · exact iff_of_false (not_aborts_valid _) Bool.noConfusion
  · exact iff_of_false (not_aborts_valid _) Bool.noConfusion
  · next htext hpoints =>
    refine iff_of_true (aborts_aborted _) ?_
    cases v with
    | text s => exact absurd rfl (htext s)
    | points ns => exact absurd rfl (hpoints ns)
    | _ => rfl

/-! ## Structures -/

theorem not_aborts_fileLog (e : Entries) : ¬ (FileLog.read e).Aborts := by
  simp only [FileLog.read, aborts_seq_iff, aborts_map_iff, not_or]
  exact ⟨⟨⟨⟨not_aborts_field not_aborts_readBoolean, not_aborts_field not_aborts_readPathTemplate⟩,
    not_aborts_field not_aborts_readRotation⟩, not_aborts_field not_aborts_readRetention⟩,
    not_aborts_field not_aborts_readText⟩

theorem not_aborts_consoleLog (e : Entries) : ¬ (ConsoleLog.read e).Aborts := by
  simp only [ConsoleLog.read, aborts_seq_iff, aborts_map_iff, not_or]
  exact ⟨⟨not_aborts_field not_aborts_readConsoleFormat, not_aborts_field not_aborts_readBoolean⟩,
    not_aborts_field not_aborts_readBoolean⟩

theorem not_aborts_logging (e : Entries) : ¬ (Logging.read e).Aborts := by
  simp only [Logging.read, aborts_seq_iff, aborts_map_iff, not_or]
  exact ⟨not_aborts_field fun _ => not_aborts_readMapping not_aborts_fileLog,
    not_aborts_field fun _ => not_aborts_readMapping not_aborts_consoleLog⟩

theorem not_aborts_general (e : Entries) : ¬ (General.read e).Aborts := by
  simp only [General.read, aborts_seq_iff, aborts_map_iff, not_or]
  exact ⟨not_aborts_field not_aborts_readLogLevel,
    not_aborts_field fun _ => not_aborts_readMapping not_aborts_logging⟩

theorem not_aborts_namespaces (e : Entries) : ¬ (Namespaces.read e).Aborts := by
  simp only [Namespaces.read, aborts_seq_iff, aborts_map_iff, not_or]
  exact ⟨not_aborts_field not_aborts_readNamespace, not_aborts_field not_aborts_readNamespace⟩

/-- The output directory is bound to a value that is no text. -/
def MisplacesOutput (e : Entries) : Prop :=
  ∃ v, e.get? (.text "output_dir") = some v ∧ v.isText = false

/-- The settings of schemas end the reading exactly if the output directory is no text. -/
theorem aborts_generator_iff {codecs : Text.Codecs} :
    (Generator.read codecs e).Aborts ↔ MisplacesOutput e := by
  have houtput : ∀ default,
      (field e "output_dir" default readOutputDir).Aborts ↔ MisplacesOutput e := fun _ =>
    aborts_field_iff.trans (exists_congr fun _ => and_congr_right fun _ => aborts_readOutputDir_iff)
  have htemplate : ∀ default,
      ¬ (field e "filename_template" default readFilenameTemplate).Aborts :=
    fun _ => not_aborts_field not_aborts_readFilenameTemplate
  have hencoding : ∀ default, ¬ (field e "encoding" default (readEncoding codecs)).Aborts :=
    fun _ => not_aborts_field (not_aborts_readEncoding codecs)
  simp only [Generator.read, aborts_seq_iff, aborts_map_iff]
  rw [or_iff_left (hencoding _), or_iff_left (htemplate _), houtput]

/-- **Reading settings ends at once** exactly if a key is no text, or the output directory. -/
theorem aborts_read_iff {codecs : Text.Codecs} : (Settings.read codecs e).Aborts ↔
    (∃ entry ∈ e, entry.1.isText = false) ∨
      ∃ sub, e.get? (.text "generator") = some (.mapping sub) ∧ MisplacesOutput sub := by
  have hgeneral : ∀ key default, ¬ (field e key default (readMapping "GlobalConfig"
      General.read)).Aborts :=
    fun _ _ => not_aborts_field fun _ => not_aborts_readMapping not_aborts_general
  have hnamespaces : ∀ default, ¬ (field e "namespaces" default (readMapping "NamespaceConfig"
      Namespaces.read)).Aborts :=
    fun _ => not_aborts_field fun _ => not_aborts_readMapping not_aborts_namespaces
  have hgenerator : ∀ default, (field e "generator" default (readMapping "GeneratorConfig"
      (Generator.read codecs))).Aborts ↔
      ∃ sub, e.get? (.text "generator") = some (.mapping sub) ∧ MisplacesOutput sub := by
    intro default
    simp only [aborts_field_iff, aborts_readMapping_iff, aborts_generator_iff]
    constructor
    · rintro ⟨_, hv, sub, rfl, h⟩
      exact ⟨sub, hv, h⟩
    · rintro ⟨sub, hv, h⟩
      exact ⟨_, hv, sub, rfl, h⟩
  unfold Settings.read
  split
  · next hkeys =>
    have htexts : ¬ ∃ entry ∈ e, entry.1.isText = false := by
      rintro ⟨entry, hentry, hno⟩
      rw [List.all_eq_true.mp hkeys entry hentry] at hno
      cases hno
    rw [or_iff_right htexts]
    simp only [aborts_seq_iff, aborts_map_iff]
    rw [or_iff_left (hnamespaces _), or_iff_right (hgeneral _ _), hgenerator]
  · next hkeys =>
    refine iff_of_true (aborts_aborted _) (.inl ?_)
    simpa using hkeys

/-- Settings that can be read to the end, whatever issues they have: their keys are texts, and so is
the output directory. -/
structure Readable (e : Entries) : Prop where
  keys : ∀ entry ∈ e, entry.1.isText = true
  output : ∀ sub, e.get? (.text "generator") = some (.mapping sub) → ¬ MisplacesOutput sub

theorem not_aborts_read_iff (codecs : Text.Codecs) :
    ¬ (Settings.read codecs e).Aborts ↔ Readable e := by
  rw [aborts_read_iff, not_or]
  constructor
  · rintro ⟨hkeys, houtput⟩
    refine ⟨fun entry hentry => ?_, fun sub hsub hno => houtput ⟨sub, hsub, hno⟩⟩
    exact Bool.ne_false_iff.mp fun hno => hkeys ⟨entry, hentry, hno⟩
  · rintro ⟨hkeys, houtput⟩
    refine ⟨?_, fun ⟨sub, hsub, hno⟩ => houtput sub hsub hno⟩
    rintro ⟨entry, hentry, hno⟩
    rw [hkeys entry hentry] at hno
    cases hno

end Settings

end RoleSchema
