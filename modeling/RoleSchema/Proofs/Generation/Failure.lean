import RoleSchema.Proofs.Generation.Writing

/-!
# What a failed run leaves

A run that fails before it writes leaves the store as it is. A run that fails on writing has written
some of its schemas; where the text of a schema has no encoding, its file has been made empty, and
what it held is lost. All other files below the directory hold what they held, or a schema.

* `Encoding.encode_ne_nil`: a text that is not empty has bytes.
* `left_of_writeEach`: what a run that fails on writing leaves at each place.
* `generate_spares_iff`: when a failed run spares the files below its directory.
* `Cafes.generate_loses_cafes`: a concept whose name has no encoding.
-/

namespace RoleSchema

open Files (Path Store Place)
open Text (Encoding)

/-! ## Bytes of texts -/

namespace Text.Scheme

variable {e : Scheme} {bytes : List UInt8}

theorem units16_ne_nil (n : Nat) : units16 n ≠ [] := by
  unfold units16
  split <;> simp

theorem flatMap_units16_ne_nil {f : Nat → List UInt8} (h : ∀ u, f u ≠ []) (n : Nat) :
    (units16 n).flatMap f ≠ [] := by
  obtain ⟨u, rest, hunits⟩ := List.exists_cons_of_ne_nil (units16_ne_nil n)
  rw [hunits, List.flatMap_cons]
  exact List.append_ne_nil_of_left_ne_nil (h u) _

/-- Every character that can be written has bytes. -/
theorem encodeChar_ne_nil {c : Char} (h : e.encodeChar c = some bytes) : bytes ≠ [] := by
  have hlittle (count n : Nat) : littleBytes (count + 1) n ≠ [] := by simp [littleBytes]
  have hbig (count n : Nat) : (littleBytes (count + 1) n).reverse ≠ [] := by simp [littleBytes]
  have hutf8 : String.utf8EncodeChar c ≠ [] := by
    rw [← List.length_pos_iff, String.length_utf8EncodeChar]
    exact c.utf8Size_pos
  unfold encodeChar at h
  cases e <;> simp only at h
  case ascii | latin1 =>
    split at h <;> cases h
    simp
  case windows1252 =>
    split at h
    · cases h
      simp
    · split at h
      · split at h <;> cases h
        simp
      · cases h
  case utf8 | utf8Marked =>
    cases h
    exact hutf8
  case utf16Marked | utf16Little =>
    cases h
    exact flatMap_units16_ne_nil (hlittle 1) _
  case utf16Big =>
    cases h
    exact flatMap_units16_ne_nil (hbig 1) _
  case utf32Marked | utf32Little =>
    cases h
    exact hlittle 3 _
  case utf32Big =>
    cases h
    exact hbig 3 _

theorem encode_ne_nil {s : String} (hs : s ≠ "") (h : e.encode s = .ok bytes) : bytes ≠ [] := by
  obtain ⟨body, hbody, rfl⟩ := map_eq_ok_iff.mp h
  obtain ⟨c, rest, hcs⟩ := List.exists_cons_of_ne_nil (show s.toList ≠ [] by simpa using hs)
  refine List.append_ne_nil_of_right_ne_nil _ ?_
  rw [hcs] at hbody
  unfold encodeFrom at hbody
  split at hbody
  · next first hfirst =>
    obtain ⟨others, -, rfl⟩ := map_eq_ok_iff.mp hbody
    exact List.append_ne_nil_of_left_ne_nil (encodeChar_ne_nil hfirst) _
  · cases hbody

end Text.Scheme

/-- A text that is not empty has bytes. -/
theorem Text.Encoding.encode_ne_nil {e : Encoding} {bytes : List UInt8} {s : String} (hs : s ≠ "")
    (h : e.encode s = .ok bytes) : bytes ≠ [] := by
  cases e with
  | known scheme => exact scheme.encode_ne_nil hs h
  | installed codec => exact codec.encode_ne_nil h hs

theorem Artifact.text_ne_empty (a : Artifact) : a.text ≠ "" := by
  simp [Artifact.text]

/-! ## Files of a failed run -/

section

variable {encoding : Encoding} {directory : Path} {store : Store} {artifacts : List Artifact}
  {fault : GenerationFault} {place : Place}

/-- A place holds the whole text of a schema. -/
def HoldsSchema (encoding : Encoding) (artifacts : List Artifact) (store : Store) (place : Place) :
    Prop :=
  ∃ a ∈ artifacts, ∃ bytes, encoding.encode a.text = .ok bytes ∧ store.file? place = some bytes

/-- Whether the text of a schema has no encoding. -/
def isUnencodable (encoding : Encoding) (a : Artifact) : Bool :=
  !(encoding.encode a.text).isOk

/-- The place whose file a run leaves empty when it ends with a fault: that of the first schema
whose text has no encoding, if this is the fault. -/
def emptiedPlace? (encoding : Encoding) (directory : Path) (store : Store)
    (artifacts : List Artifact) : GenerationFault → Option Place
  | .encoding _ => (artifacts.find? (isUnencodable encoding)).map fun a =>
      store.placeOf (directory / a.filename)
  | _ => none

theorem HoldsSchema.ne_nil (h : HoldsSchema encoding artifacts store place) :
    store.file? place ≠ some [] := by
  obtain ⟨a, -, bytes, hencode, hfile⟩ := h
  rw [hfile]
  intro hnil
  exact Encoding.encode_ne_nil a.text_ne_empty hencode (Option.some.inj hnil)

theorem HoldsSchema.of_cons {a : Artifact} {rest : List Artifact}
    (h : HoldsSchema encoding rest store place) : HoldsSchema encoding (a :: rest) store place := by
  obtain ⟨b, hb, hholds⟩ := h
  exact ⟨b, List.mem_cons_of_mem _ hb, hholds⟩

theorem emptiedPlace?_cons_of_ok {a : Artifact} {rest : List Artifact} {bytes : List UInt8}
    (h : encoding.encode a.text = .ok bytes) (fault : GenerationFault) :
    emptiedPlace? encoding directory store (a :: rest) fault =
      emptiedPlace? encoding directory store rest fault := by
  have hskip : ¬ isUnencodable encoding a = true := by
    simp [isUnencodable, h, Except.isOk, Except.toBool]
  cases fault with
  | encoding _ => rw [emptiedPlace?, emptiedPlace?, List.find?_cons_of_neg hskip]
  | reading _ | forming _ | storing _ => rfl

theorem emptiedPlace?_cons_of_error {a : Artifact} {rest : List Artifact}
    {fault : Encoding.Unencodable} (h : encoding.encode a.text = .error fault) :
    emptiedPlace? encoding directory store (a :: rest) (.encoding fault) =
      some (store.placeOf (directory / a.filename)) := by
  have hfound : isUnencodable encoding a = true := by
    simp [isUnencodable, h, Except.isOk, Except.toBool]
  rw [emptiedPlace?, List.find?_cons_of_pos hfound, Option.map_some]

theorem emptiedPlace?_nil : emptiedPlace? encoding directory store [] fault = none := by
  cases fault <;> rfl

theorem emptiedPlace?_congr {store' : Store} (h : store'.here = store.here) :
    emptiedPlace? encoding directory store' artifacts fault =
      emptiedPlace? encoding directory store artifacts fault := by
  cases fault with
  | encoding _ =>
    unfold emptiedPlace?
    simp only [Store.placeOf_congr h]
  | reading _ | forming _ | storing _ => rfl

/-- What a run that fails on writing has left at a place. -/
inductive Left (encoding : Encoding) (directory : Path) (store : Store) (artifacts : List Artifact)
    (fault : GenerationFault) (store' : Store) (place : Place) : Prop
  /-- The file there is what it was, if there was one. -/
  | kept (nowhere : emptiedPlace? encoding directory store artifacts fault ≠ some place)
    (file : store'.file? place = store.file? place)
  /-- The file there is a schema. -/
  | written (nowhere : emptiedPlace? encoding directory store artifacts fault ≠ some place)
    (schema : HoldsSchema encoding artifacts store' place)
  /-- The file there is empty. -/
  | emptied (here : emptiedPlace? encoding directory store artifacts fault = some place)
    (file : store'.file? place = some [])

theorem left_of_writeEach
    (h : (writeEach encoding directory store artifacts).report.result = .error fault)
    (place : Place) :
    Left encoding directory store artifacts fault
      (writeEach encoding directory store artifacts).store place := by
  induction artifacts generalizing store with
  | nil => cases h
  | cons a rest ih =>
    cases firstWrite encoding directory store a rest with
    | refused _ kept result =>
      rw [result] at h
      cases h
      exact .kept (by simp [emptiedPlace?]) (by rw [kept])
    | emptied _ unencodable holding result =>
      rw [result] at h
      cases h
      have hfile := holding.file? place
      have hemptied : emptiedPlace? encoding directory store (a :: rest) (.encoding _) = some _ :=
        emptiedPlace?_cons_of_error unencodable
      by_cases hplace : place = store.placeOf (directory / a.filename)
      · rw [if_pos hplace] at hfile
        exact .emptied (hemptied.trans (congrArg some hplace.symm)) hfile
      · rw [if_neg hplace] at hfile
        refine .kept (fun hsome => hplace ?_) hfile
        exact Option.some.inj (hsome.symm.trans hemptied)
    | filled bytes filled encoded holding others result =>
      rw [result] at h
      -- the schema is not the one whose file is left empty
      have hemptied : emptiedPlace? encoding directory filled rest fault =
          emptiedPlace? encoding directory store (a :: rest) fault :=
        (emptiedPlace?_congr holding.here).trans (emptiedPlace?_cons_of_ok encoded fault).symm
      rw [others]
      cases ih (map_eq_error_iff.mp h) with
      | kept nowhere file =>
        rw [hemptied] at nowhere
        have hfile := file.trans (holding.file? place)
        split at hfile
        · exact .written nowhere ⟨a, List.mem_cons_self, bytes, encoded, hfile⟩
        · exact .kept nowhere hfile
      | written nowhere schema => exact .written (hemptied ▸ nowhere) schema.of_cons
      | emptied here file => exact .emptied (hemptied ▸ here) file

end

/-! ## Failed runs -/

section

variable {settings : Settings} {store : Store} {document : Path} {directory : Option Path}
  {fault : GenerationFault}

/-- The schemas and the place that is emptied are those of the document also where the run ends
before it writes. -/
theorem left_of_generate
    (h : (generate settings store document directory).report.result = .error fault)
    (place : Place) :
    Left settings.generator.encoding.encoding (directory.getD settings.generator.outputDir) store
      (schemasIn settings store document) fault
      (generate settings store document directory).store place := by
  rcases generate_cases settings store document directory with
    ⟨fault', hformed, hs, hr⟩ | ⟨stored, hstored, hs, hr⟩
  · have hnone : schemasIn settings store document = [] := by
      simp only [schemasIn, Reporting.value, hformed]
      rfl
    rw [hs, hnone]
    exact .kept (by simp [emptiedPlace?_nil]) rfl
  · rw [hr] at h
    replace h := map_eq_error_iff.mp h
    unfold writeArtifacts at hstored
    split at hstored
    · subst hstored
      cases h
      rw [hs]
      exact .kept (by simp [emptiedPlace?]) rfl
    · next made hmade =>
      obtain ⟨hhere, hfiles⟩ := Store.makeDirectories_eq_ok hmade
      subst hstored
      rw [hs]
      have hmade : made.file? place = store.file? place := by
        unfold Store.file?
        rw [hfiles]
      have hemptied : emptiedPlace? settings.generator.encoding.encoding
            (directory.getD settings.generator.outputDir) made (schemasIn settings store document)
            fault =
          emptiedPlace? settings.generator.encoding.encoding
            (directory.getD settings.generator.outputDir) store (schemasIn settings store document)
            fault := emptiedPlace?_congr hhere
      cases left_of_writeEach h place with
      | kept nowhere file => exact .kept (hemptied ▸ nowhere) (file.trans hmade)
      | written nowhere schema => exact .written (hemptied ▸ nowhere) schema
      | emptied here file => exact .emptied (hemptied ▸ here) file

/-- A run leaves each file that was there below its directory as it was, or with the whole text of
one of its schemas. -/
def SparesFiles (settings : Settings) (store : Store) (document directory : Path)
    (store' : Store) : Prop :=
  ∀ names, names ≠ [] → ∀ old, store.file? (store.placeOf directory ++ names) = some old →
    store'.file? (store.placeOf directory ++ names) = some old ∨
      HoldsSchema settings.generator.encoding.encoding (schemasIn settings store document) store'
        (store.placeOf directory ++ names)

/-- Below its directory, the file that a run leaves empty when it ends with a fault was empty before
if it was there at all. -/
def LosesNothing (settings : Settings) (store : Store) (document directory : Path)
    (fault : GenerationFault) : Prop :=
  ∀ names, names ≠ [] →
    emptiedPlace? settings.generator.encoding.encoding directory store
        (schemasIn settings store document) fault = some (store.placeOf directory ++ names) →
    ∀ old, store.file? (store.placeOf directory ++ names) = some old → old = []

/-- **What a failed run destroys.** A run that fails while the schemas are formed changes nothing. A
run that fails spares the files below its directory exactly if the file that it leaves empty, because
the text of a schema has no encoding, was not there or was empty before. -/
theorem generate_spares_iff
    (h : (generate settings store document directory).report.result = .error fault) :
    (∀ fault', (artifactsOf settings store document).result = .error fault' →
      (generate settings store document directory).store = store) ∧
    (SparesFiles settings store document (directory.getD settings.generator.outputDir)
        (generate settings store document directory).store ↔
      LosesNothing settings store document (directory.getD settings.generator.outputDir)
        fault) := by
  refine ⟨fun fault' hfault => ?_, fun hspares names hne hemptied old hold => ?_,
    fun hloses names hne old hold => ?_⟩
  · unfold generate
    simp only
    split
    · rfl
    · next built hbuilt =>
      have hformed : (artifactsOf settings store document).result = .ok built := hbuilt
      rw [hfault] at hformed
      cases hformed
  · -- the file is empty now, so no schema is in it, and it was empty before
    cases left_of_generate h (store.placeOf (directory.getD settings.generator.outputDir) ++ names)
      with
    | kept nowhere _ | written nowhere _ => exact absurd hemptied nowhere
    | emptied _ file =>
      rcases hspares names hne old hold with hkept | hschema
      · exact Option.some.inj (hkept.symm.trans file)
      · exact absurd file hschema.ne_nil
  · cases left_of_generate h (store.placeOf (directory.getD settings.generator.outputDir) ++ names)
      with
    | kept _ file => exact Or.inl (file.trans hold)
    | written _ schema => exact Or.inr schema
    | emptied here file =>
      rw [hloses names hne here old hold]
      exact Or.inl file

end

/-! ## Cafés -/

namespace Cafes

/-- Settings under which schemas are written in ASCII. -/
def settings : Settings := { generator := { encoding := ⟨"ascii", .known .ascii⟩ } }

/-- A store that has a document about rooms and cafés, and one file in a directory. -/
def store (name : String) : Store where
  directories := [["out"]]
  files := [(["model"], Neighbours.document ["Room", "Caf&#233;"]), (["out", name], [33])]

/-- The directory of the run. -/
def out : Path := { parts := ["out"] }

/-- The run on the document of the store. -/
def run (name : String) : Stored GenerationFault Generation :=
  generate settings (store name) { parts := ["model"] } (some out)

/-- A letter of the schema of cafés cannot be written. -/
def fault : GenerationFault := .encoding ⟨"ascii", "ordinal not in range(128)", 'é', 28, 1⟩

set_option maxRecDepth 100000 in
/-- The run fails on the schema of cafés. By then the schema of rooms has been written over what the
directory had, and nothing is lost. -/
theorem generate_spares_rooms :
    (run "room_schema.rel").report.result = .error fault ∧
      (run "room_schema.rel").store.file? ["out", "room_schema.rel"] ≠ some [33] ∧
      SparesFiles settings (store "room_schema.rel") { parts := ["model"] } out
        (run "room_schema.rel").store := by
  obtain ⟨hrun, hchanged, hplace⟩ : (run "room_schema.rel").report.result = .error fault ∧
      (run "room_schema.rel").store.file? ["out", "room_schema.rel"] ≠ some [33] ∧
      emptiedPlace? (.known .ascii) out (store "room_schema.rel")
        (schemasIn settings (store "room_schema.rel") { parts := ["model"] }) fault =
          some ["out", "café_schema.rel"] := by decide +kernel
  have habsent : (store "room_schema.rel").file? ["out", "café_schema.rel"] = none := by
    decide +kernel
  have hloses : LosesNothing settings (store "room_schema.rel") { parts := ["model"] } out
      fault := by
    intro names _ hemptied old hold
    rw [← Option.some.inj (hplace.symm.trans hemptied), habsent] at hold
    cases hold
  refine ⟨hrun, hchanged, ?_⟩
  unfold run at hrun ⊢
  exact (generate_spares_iff hrun).2.mpr hloses

set_option maxRecDepth 100000 in
/-- The run fails on the schema of cafés, and what was in its file is lost. -/
theorem generate_loses_cafes :
    (run "café_schema.rel").report.result = .error fault ∧
      (store "café_schema.rel").file? ["out", "café_schema.rel"] = some [33] ∧
      (run "café_schema.rel").store.file? ["out", "café_schema.rel"] = some [] ∧
      ¬ SparesFiles settings (store "café_schema.rel") { parts := ["model"] } out
        (run "café_schema.rel").store := by
  obtain ⟨hrun, hafter⟩ : (run "café_schema.rel").report.result = .error fault ∧
      (run "café_schema.rel").store.file? ["out", "café_schema.rel"] = some [] := by decide +kernel
  have hplace : (store "café_schema.rel").placeOf out ++ ["café_schema.rel"] =
      ["out", "café_schema.rel"] := by decide +kernel
  have hbefore : (store "café_schema.rel").file? ["out", "café_schema.rel"] = some [33] := by
    decide +kernel
  refine ⟨hrun, hbefore, hafter, fun hspares => ?_⟩
  have hfile := hspares ["café_schema.rel"] (by simp) [33]
  rw [hplace] at hfile
  rcases hfile hbefore with hkept | hschema
  · exact absurd (hkept.symm.trans hafter) (by simp)
  · exact hschema.ne_nil hafter

end Cafes

end RoleSchema
