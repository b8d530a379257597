import RoleSchema.Proofs.Generation.Writing
import RoleSchema.Proofs.Schema.Announcement

/-!
# Schemas that are written over one another

Schemas of one file name are written into one file, in order, so that the file holds the last of
them. Whoever reads the warnings of the run knows of each schema that is lost in this way, for every
schema after the first of its file name is announced.

* `file?_of_writeEach`: the file of a schema that none of one place comes after.
* `overwriting_announced`: the warnings of a run and what the files hold after it.
* `Capitals.overwriting_announced_capitals`: two concepts that differ in their capitals only.
-/

namespace RoleSchema

open Files (Path Store Place)
open Text (Encoding)

section

variable {encoding : Encoding} {directory : Path} {store : Store} {artifacts : List Artifact}
  {written : List Path}

/-- After a run that ends, a place holds the text of the last schema that is written to it. -/
theorem file?_of_writeEach {before after : List Artifact} {a : Artifact}
    (h : (writeEach encoding directory store (before ++ a :: after)).report.result = .ok written)
    (hafter : ∀ b ∈ after,
      store.placeOf (directory / a.filename) ≠ store.placeOf (directory / b.filename)) :
    ∃ bytes, encoding.encode a.text = .ok bytes ∧
      (writeEach encoding directory store (before ++ a :: after)).store.file?
        (store.placeOf (directory / a.filename)) = some bytes := by
  induction before generalizing store written with
  | nil =>
    cases firstWrite encoding directory store a after with
    | refused _ _ result | emptied _ _ _ result =>
      rw [List.nil_append, result] at h
      cases h
    | filled bytes filled encoded holding others _ =>
      refine ⟨bytes, encoded, ?_⟩
      -- none of the others is written to the place
      rw [List.nil_append, others, file?_writeEach, holding.file?, if_pos rfl]
      intro b hb
      rw [Store.placeOf_congr holding.here]
      exact hafter b hb
  | cons c before ih =>
    cases firstWrite encoding directory store c (before ++ a :: after) with
    | refused _ _ result | emptied _ _ _ result =>
      rw [List.cons_append, result] at h
      cases h
    | filled _ filled _ holding others result =>
      rw [List.cons_append, result] at h
      obtain ⟨written', hwritten, -⟩ := map_eq_ok_iff.mp h
      rw [List.cons_append, others, ← Store.placeOf_congr holding.here]
      refine ih hwritten fun b hb => ?_
      rw [Store.placeOf_congr holding.here, Store.placeOf_congr holding.here]
      exact hafter b hb

/-- A run that ends has made the directory and written the schemas into it. -/
theorem writeArtifacts_eq_ok
    (h : (writeArtifacts encoding directory store artifacts).report.result = .ok written) :
    ∃ made, made.here = store.here ∧ made.files = store.files ∧
      writeArtifacts encoding directory store artifacts =
        writeEach encoding directory made artifacts := by
  unfold writeArtifacts at h ⊢
  split at h
  · cases h
  · next made hmade =>
    obtain ⟨hhere, hfiles⟩ := Store.makeDirectories_eq_ok hmade
    exact ⟨made, hhere, hfiles, rfl⟩

/-- What is held after schemas have been written into a directory. -/
structure HoldsLatest (encoding : Encoding) (directory : Path) (artifacts : List Artifact)
    (store store' : Store) (written : List Path) : Prop where
  /-- The file of a file name holds the text of the last schema that has it. -/
  latest : ∀ before a after, artifacts = before ++ a :: after →
    (∀ b ∈ after, b.filename ≠ a.filename) →
    ∃ bytes, encoding.encode a.text = .ok bytes ∧
      store'.file? (store.placeOf (directory / a.filename)) = some bytes
  /-- All other files are what they were. -/
  others : ∀ place, (∀ a ∈ artifacts, place ≠ store.placeOf (directory / a.filename)) →
    store'.file? place = store.file? place
  /-- There is one path for each schema. -/
  written : written = artifacts.map fun a => directory / a.filename

/-- Where different file names lead to different places, no schema is lost but to a later one of its
file name. -/
theorem holdsLatest_of_writeArtifacts
    (hplaces : ∀ a ∈ artifacts, ∀ b ∈ artifacts, a.filename ≠ b.filename →
      store.placeOf (directory / a.filename) ≠ store.placeOf (directory / b.filename))
    (h : (writeArtifacts encoding directory store artifacts).report.result = .ok written) :
    HoldsLatest encoding directory artifacts store
      (writeArtifacts encoding directory store artifacts).store written := by
  obtain ⟨made, hhere, hfiles, hrun⟩ := writeArtifacts_eq_ok h
  have hplace (p : Path) : made.placeOf p = store.placeOf p := Store.placeOf_congr hhere p
  rw [hrun] at h ⊢
  refine ⟨?_, fun place hne => ?_, written_of_writeEach h⟩
  · rintro before a after rfl hlast
    have hfile := file?_of_writeEach h fun b hb => by
      rw [hplace, hplace]
      exact hplaces a (by simp) b (by simp [hb]) (hlast b hb).symm
    rwa [hplace] at hfile
  · rw [file?_writeEach fun a ha => by rw [hplace]; exact hne a ha]
    unfold Store.file?
    rw [hfiles]

end

/-- **Overwritten schemas are announced.** A run that ends with schemas warns of each that has the
file name of one before. Written to a store in which different file names lead to different places,
the last schema of each file name is in its file, and all other files are left as they are. -/
theorem overwriting_announced {m : Model} {template : String} {artifacts : List Artifact}
    (h : (m.schemas template).result = .ok artifacts) :
    m.Announces template artifacts ∧
      ∀ (encoding : Encoding) (directory : Path) (store : Store) (written : List Path),
        (∀ a ∈ artifacts, ∀ b ∈ artifacts, a.filename ≠ b.filename →
          store.placeOf (directory / a.filename) ≠ store.placeOf (directory / b.filename)) →
        (writeArtifacts encoding directory store artifacts).report.result = .ok written →
        HoldsLatest encoding directory artifacts store
          (writeArtifacts encoding directory store artifacts).store written :=
  ⟨Model.announces_of_schemas h, fun _ _ _ _ => holdsLatest_of_writeArtifacts⟩

/-! ## Capitals -/

namespace Capitals

/-- A diagram about a concept. -/
def diagram (id name : String) : Diagram where
  id := some id
  name := name ++ ":concept"
  subjectRefs := [some name]

/-- Rooms, halls, and rooms that are written in capitals. -/
def model : Model where
  objects := ["Room", "Hall", "ROOM"].map fun name =>
    { id := some name, name := name, kind := .entity }
  diagrams := [diagram "first" "Room", diagram "second" "Hall", diagram "third" "ROOM"]

/-- The schema of one of the concepts. -/
def schema (name filename clause : String) : Artifact where
  concept := name
  diagram := name ++ ":concept"
  filename := filename
  lines := ["", "// Constraints for the '" ++ name ++ "' concept and its subtypes", clause]

/-- The schemas, the last of which has the file name of the first. -/
def schemas : List Artifact :=
  [schema "Room" "room_schema.rel" "ic room_is_entity(v) \x7b Room(v) implies Entity(v) \x7d",
    schema "Hall" "hall_schema.rel" "ic hall_is_entity(v) \x7b Hall(v) implies Entity(v) \x7d",
    schema "ROOM" "room_schema.rel" "ic r_o_o_m_is_entity(v) \x7b ROOM(v) implies Entity(v) \x7d"]

/-- What writing the schemas comes to where a file of the directory is there already. -/
def stored : Stored GenerationFault (List Path) :=
  writeArtifacts .utf8 (Path.ofText "out")
    { directories := [["out"]], files := [(["out", "notes"], [33])] } schemas

set_option maxRecDepth 100000 in
/-- The diagram about rooms in capitals is announced with that about rooms, and its schema is the
one in the file of both. -/
theorem overwriting_announced_capitals :
    model.Announces defaultTemplate schemas ∧
      Diagnostic.withCode duplicateCode (model.schemas defaultTemplate).diagnostics =
        [.duplicateArtifact "Room:concept" (diagram "third" "ROOM") "room_schema.rel"] ∧
      (∃ bytes, Encoding.utf8.encode (schemas.getLast (by decide)).text = .ok bytes ∧
        stored.store.file? ["out", "room_schema.rel"] = some bytes) ∧
      stored.store.file? ["out", "notes"] = some [33] := by
  have hschemas : (model.schemas defaultTemplate).result = .ok schemas := by decide +kernel
  obtain ⟨hannounced, hwritten⟩ := overwriting_announced hschemas
  have hholds := hwritten .utf8 (Path.ofText "out")
    { directories := [["out"]], files := [(["out", "notes"], [33])] }
    (schemas.map fun a => Path.ofText "out" / a.filename) (by decide +kernel) (by decide +kernel)
  refine ⟨hannounced, by decide +kernel, ?_, ?_⟩
  · exact hholds.latest (schemas.take 2) _ [] rfl (by simp)
  · rw [stored, hholds.others _ (by decide +kernel)]
    rfl

end Capitals

end RoleSchema
