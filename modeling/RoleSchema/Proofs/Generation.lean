import RoleSchema.Generation
import RoleSchema.Proofs.Files.Inside
import RoleSchema.Proofs.Schema.Extension
import RoleSchema.Proofs.Schema.Independence

/-!
# Where generation writes

A run writes one file for each schema, at the path of its file name in the directory of the run. The
file name is made of the name of an entity type, which may hold slashes and `..`; so a run stays in
its directory, and keeps schemas of different names apart, only if the file names do.

* `generate_inside_iff`: when the files of a run lie inside its directory.
* `Neighbours.generate_leaves_directory`: rooms that are named like paths.
-/

namespace RoleSchema

open Files (Path Store Place)
open Text (Encoding)

/-- The schemas of a document; none where they cannot be formed. -/
def schemasIn (settings : Settings) (store : Store) (document : Path) : List Artifact :=
  (artifactsOf settings store document).value

/-- In a directory the schemas have paths inside it, and different ones if their file names are
different. -/
structure StayIn (directory : Path) (artifacts : List Artifact) : Prop where
  inside : ∀ a ∈ artifacts, (directory / a.filename).Inside directory
  apart : ∀ a ∈ artifacts, ∀ b ∈ artifacts, a.filename ≠ b.filename →
    directory / a.filename ≠ directory / b.filename

/-- The file names of schemas are relative paths that descend, and different paths if they are
different. -/
structure FilenamesConfined (artifacts : List Artifact) : Prop where
  confined : ∀ a ∈ artifacts, (Path.ofText a.filename).isConfined = true
  apart : ∀ a ∈ artifacts, ∀ b ∈ artifacts, a.filename ≠ b.filename →
    Path.ofText a.filename ≠ Path.ofText b.filename

/-! ## File names -/

/-- Schemas stay in every directory exactly if their file names are confined. -/
theorem forall_stayIn_iff {artifacts : List Artifact} :
    (∀ directory, StayIn directory artifacts) ↔ FilenamesConfined artifacts := by
  constructor
  · intro h
    refine ⟨fun a ha => ?_, fun a ha b hb hne hpath => ?_⟩
    · exact Path.forall_inside_iff.mp fun directory => (h directory).inside a ha
    · exact (h {}).apart a ha b hb hne (congrArg (Path.join {}) hpath)
  · intro h directory
    refine ⟨fun a ha => ?_, fun a ha b hb hne hpath => ?_⟩
    · exact Path.forall_inside_iff.mpr (h.confined a ha) directory
    · have hroot := Path.root_of_isConfined (h.confined a ha)
      have hroot' := Path.root_of_isConfined (h.confined b hb)
      exact h.apart a ha b hb hne ((Path.join_inj hroot hroot').mp hpath)

section

variable {m : Model} {artifacts : List Artifact}

end

/-! ## Runs -/

section

variable {encoding : Encoding} {directory : Path} {store : Store} {artifacts : List Artifact}

/-- Only the files of schemas are changed, also by a run that fails. -/
theorem file?_writeEach {place : Place}
    (h : ∀ a ∈ artifacts, place ≠ store.placeOf (directory / a.filename)) :
    (writeEach encoding directory store artifacts).store.file? place = store.file? place := by
  induction artifacts generalizing store with
  | nil => rfl
  | cons a rest ih =>
    have hplace := h a (by simp)
    unfold writeEach
    simp only
    split
    · rfl
    · next emptied he =>
      obtain ⟨hhere, hfile⟩ := Store.file?_of_write he
      have hemptied := hfile place hplace
      split
      · exact hemptied
      · split
        · exact hemptied
        · next filled hf =>
          obtain ⟨hhere', hfile'⟩ := Store.file?_of_write hf
          have hfilled : filled.file? place = store.file? place :=
            (hfile' place (by rwa [Store.placeOf_congr hhere])).trans hemptied
          refine (ih fun b hb => ?_).trans hfilled
          rw [Store.placeOf_congr (hhere'.trans hhere)]
          exact h b (by simp [hb])

/-- What has been written are the paths of the schemas in the directory. -/
theorem written_of_writeEach {written : List Path}
    (h : (writeEach encoding directory store artifacts).report.result = .ok written) :
    written = artifacts.map fun a => directory / a.filename := by
  induction artifacts generalizing store written with
  | nil =>
    cases h
    rfl
  | cons a rest ih =>
    unfold writeEach at h
    simp only at h
    split at h
    · cases h
    · split at h
      · cases h
      · split at h
        · cases h
        · obtain ⟨-, -, h⟩ := Reporting.result_bind_eq_ok_iff.mp h
          obtain ⟨others, ho, h⟩ := Reporting.result_bind_eq_ok_iff.mp h
          cases h
          rw [ih ho, List.map_cons]

end

section

variable {settings : Settings} {store : Store} {document : Path} {directory : Option Path}

/-- A run stops where the schemas cannot be formed, and otherwise writes them. -/
theorem generate_cases (settings : Settings) (store : Store) (document : Path)
    (directory : Option Path) :
    (∃ fault, (artifactsOf settings store document).result = .error fault ∧
      (generate settings store document directory).store = store ∧
      (generate settings store document directory).report.result = .error fault) ∨
    ∃ stored, stored = writeArtifacts settings.generator.encoding.encoding
        (directory.getD settings.generator.outputDir) store (schemasIn settings store document) ∧
      (generate settings store document directory).store = stored.store ∧
      (generate settings store document directory).report.result =
        stored.report.result.map fun written => ⟨schemasIn settings store document, written⟩ := by
  unfold generate
  simp only
  split
  · next fault hfault => exact Or.inl ⟨fault, hfault, rfl, rfl⟩
  · next built hbuilt =>
    have hschemas : schemasIn settings store document = built := Reporting.value_of_ok hbuilt
    rw [hschemas]
    refine Or.inr ⟨_, rfl, rfl, ?_⟩
    rw [Reporting.result_bind_of_ok hbuilt]
    generalize (writeArtifacts _ _ store built).report = report
    obtain ⟨es, fault | written⟩ := report <;> rfl

/-- A run that ends has written the schemas of the document into the directory. -/
theorem generate_eq_ok {g : Generation}
    (h : (generate settings store document directory).report.result = .ok g) :
    g.artifacts = schemasIn settings store document ∧
      g.written = (schemasIn settings store document).map fun a =>
        directory.getD settings.generator.outputDir / a.filename := by
  rcases generate_cases settings store document directory with
    ⟨fault, -, -, hr⟩ | ⟨stored, hstored, -, hr⟩
  · rw [hr] at h
    cases h
  · rw [hr] at h
    obtain ⟨written, hw, rfl⟩ := map_eq_ok_iff.mp h
    refine ⟨rfl, ?_⟩
    unfold writeArtifacts at hstored
    split at hstored
    · subst hstored
      cases hw
    · subst hstored
      exact written_of_writeEach hw

/-- A run changes no file but those of the schemas of the document, also if it fails. -/
theorem file?_generate {place : Place}
    (h : ∀ a ∈ schemasIn settings store document,
      place ≠ store.placeOf (directory.getD settings.generator.outputDir / a.filename)) :
    (generate settings store document directory).store.file? place = store.file? place := by
  rcases generate_cases settings store document directory with
    ⟨fault, -, hs, -⟩ | ⟨stored, hstored, hs, -⟩
  · rw [hs]
  · rw [hs, hstored]
    unfold writeArtifacts
    split
    · rfl
    · next made hmade =>
      obtain ⟨hhere, hfiles⟩ := Store.makeDirectories_eq_ok hmade
      have hmadeFile : made.file? place = store.file? place := by
        unfold Store.file?
        rw [hfiles]
      refine (file?_writeEach fun a ha => ?_).trans hmadeFile
      rw [Store.placeOf_congr hhere]
      exact h a ha

/-- What becomes of the files on a run into a directory. -/
structure WritesInto (settings : Settings) (store : Store) (document directory : Path)
    (run : Stored GenerationFault Generation) : Prop where
  /-- A run that ends has written each schema of the document at its file name in the directory. -/
  written : ∀ g, run.report.result = .ok g →
    g.artifacts = schemasIn settings store document ∧
      g.written = g.artifacts.map fun a => directory / a.filename
  /-- Where the schemas stay in the directory, each file that is changed, also by a run that fails,
  is below it. -/
  below : StayIn directory (schemasIn settings store document) →
    ∀ place, run.store.file? place ≠ store.file? place →
      ∃ names, names ≠ [] ∧ place = store.placeOf directory ++ names

/-- **Where generation writes.** Whichever directory a run is given, the schemas of a document stay
in it, each file name at a path of its own, exactly if the file names are confined; and a run writes
to no other paths than theirs. -/
theorem generate_inside_iff (settings : Settings) (store : Store) (document : Path) :
    ((∀ directory, StayIn directory (schemasIn settings store document)) ↔
      FilenamesConfined (schemasIn settings store document)) ∧
    ∀ directory : Option Path,
      WritesInto settings store document (directory.getD settings.generator.outputDir)
        (generate settings store document directory) := by
  refine ⟨forall_stayIn_iff, fun directory => ⟨fun g hg => ?_, fun hstay place hchanged => ?_⟩⟩
  · obtain ⟨hartifacts, hwritten⟩ := generate_eq_ok hg
    exact ⟨hartifacts, hartifacts ▸ hwritten⟩
  · -- a changed file is at the place of a schema, and that is below the directory
    by_contra hbelow
    refine hchanged (file?_generate fun a ha hplace => hbelow ?_)
    obtain ⟨names, hne, hnames⟩ := (hstay.inside a ha).place store
    exact ⟨names, hne, hplace.trans hnames⟩

end

/-! ## Neighbours -/

namespace Neighbours

/-- A document with entity types and a diagram about each. -/
def document (names : List String) : List UInt8 :=
  let entityType name := ["<o:EntityType id='", name, "' Name='", name, "'/>"]
  let diagram name := ["<d:ORMDiagram Name='", name, ":concept'><d:Shapes><d:FactShape>",
    "<d:Subject ref='", name, "'/></d:FactShape></d:Shapes></d:ORMDiagram>"]
  let pieces := ["<o:ORMModel xmlns:o='http://schemas.neumont.edu", "/ORM/2006-04/ORMCore'",
    " xmlns:d='http://schemas.neumont.edu", "/ORM/2006-04/ORMDiagram'><o:Objects>"] ++
    names.flatMap entityType ++ ["</o:Objects>"] ++ names.flatMap diagram ++ ["</o:ORMModel>"]
  pieces.flatMap fun piece => piece.toList.map fun c => UInt8.ofNat c.toNat

/-- A store that has only the document. -/
def store (names : List String) : Store where
  files := [(["model"], document names)]

/-- The run on the document of the store. -/
def run (names : List String) : Stored GenerationFault Generation :=
  generate {} (store names) (Path.ofText "model") (some (Path.ofText "out"))

/-- The schema of a room. -/
def room : Artifact where
  concept := "Room"
  diagram := "Room:concept"
  filename := "room_schema.rel"
  lines := ["", "// Constraints for the 'Room' concept and its subtypes",
    "ic room_is_entity(v) \x7b Room(v) implies Entity(v) \x7d"]

/-- A schema whose concept is named like a path. -/
def roomAt (name filename : String) : Artifact where
  concept := name
  diagram := name ++ ":concept"
  filename := filename
  lines := ["", "// Constraints for the '" ++ name ++ "' concept and its subtypes"]

set_option maxRecDepth 100000 in
/-- The schema of a room is written into the directory, and the file is at a place below it. -/
theorem generate_inside_room :
    ∃ g, (run ["Room"]).report.result = .ok g ∧
      g.written = [Path.ofText "out" / "room_schema.rel"] ∧
      (∀ p ∈ g.written, p.Inside (Path.ofText "out")) ∧
      ∃ names, names ≠ [] ∧
        ["out", "room_schema.rel"] = (store ["Room"]).placeOf (Path.ofText "out") ++ names := by
  obtain ⟨hrun, hchanged⟩ : (run ["Room"]).report.result =
      .ok ⟨[room], [Path.ofText "out" / "room_schema.rel"]⟩ ∧
      (run ["Room"]).store.file? ["out", "room_schema.rel"] ≠
        (store ["Room"]).file? ["out", "room_schema.rel"] := by decide +kernel
  obtain ⟨hconfined, hwrites⟩ := generate_inside_iff {} (store ["Room"]) (Path.ofText "model")
  have hout : WritesInto {} (store ["Room"]) (Path.ofText "model") (Path.ofText "out")
      (run ["Room"]) := hwrites (some (Path.ofText "out"))
  obtain ⟨hartifacts, hwritten⟩ := hout.written _ hrun
  have hstay : StayIn (Path.ofText "out")
      (schemasIn {} (store ["Room"]) (Path.ofText "model")) := by
    refine hconfined.mpr ?_ (Path.ofText "out")
    rw [← hartifacts]
    exact ⟨by decide +kernel, by decide +kernel⟩
  refine ⟨_, hrun, rfl, ?_, hout.below hstay _ hchanged⟩
  rw [hwritten, hartifacts]
  simpa using hstay.inside

set_option maxRecDepth 100000 in
/-- A room that is named like a path out of the directory has its schema next to the directory, and
two rooms whose names are one path have file names of their own and one file. -/
theorem generate_leaves_directory :
    ∃ g, (run ["../Room", "./Room", "Room"]).report.result = .ok g ∧
      (∃ p ∈ g.written, ¬ p.Inside (Path.ofText "out")) ∧
      ∃ a ∈ g.artifacts, ∃ b ∈ g.artifacts, a.filename ≠ b.filename ∧
        Path.ofText "out" / a.filename = Path.ofText "out" / b.filename := by
  have hrun : (run ["../Room", "./Room", "Room"]).report.result =
      .ok ⟨[roomAt "../Room" "../room_schema.rel", roomAt "./Room" "./room_schema.rel", room],
        [Path.ofText "out" / "../room_schema.rel", Path.ofText "out" / "./room_schema.rel",
          Path.ofText "out" / "room_schema.rel"]⟩ := by decide +kernel
  have hroot : (Path.ofText "../room_schema.rel").root = .relative := by decide +kernel
  refine ⟨_, hrun, ⟨_, List.mem_cons_self, fun hinside => ?_⟩, roomAt "./Room" "./room_schema.rel",
    by simp, room, by simp, by decide +kernel, by decide +kernel⟩
  exact absurd ((Path.inside_join_iff hroot).mp hinside) (by decide +kernel)

end Neighbours

end RoleSchema
