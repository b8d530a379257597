import RoleSchema.Proofs.Generation

/-!
# Writing schemas one after the other

Writing a file changes neither the directories nor any other file, and what can be written to a path
can be written to it again. So the file of a schema is either refused, and nothing is changed, or it
is made empty and stays so if the text of the schema has no encoding, or it holds the encoded text
when the next schema is written.

* `Store.holding_of_write`: what a store holds after a file has been written.
* `firstWrite`: the first of several schemas is written, or ends the run.
-/

namespace RoleSchema

open Files (Path Store Place FileFault setFile)
open Text (Encoding)

/-! ## One file -/

namespace Files.Store

variable {s s' s'' : Store} {p : Path} {place : Place} {bytes bytes' : List UInt8}

/-- A store in which only the file at one place has changed. -/
structure Holding (s : Store) (place : Place) (bytes : List UInt8) (s' : Store) : Prop where
  here : s'.here = s.here
  directories : s'.directories = s.directories
  file? : ∀ q, s'.file? q = if q = place then some bytes else s.file? q

/-- Of two files at one place the later one is held. -/
theorem Holding.trans (h : s.Holding place bytes s') (h' : s'.Holding place bytes' s'') :
    s.Holding place bytes' s'' where
  here := h'.here.trans h.here
  directories := h'.directories.trans h.directories
  file? q := by
    rw [h'.file?, h.file?]
    split <;> rfl

theorem lookup_setFile_self (place : Place) (bytes : List UInt8)
    (files : List (Place × List UInt8)) : (setFile place bytes files).lookup place = some bytes := by
  induction files with
  | nil => simp [setFile]
  | cons f rest ih =>
    obtain ⟨q, old⟩ := f
    unfold setFile
    split
    · next hq => simp [hq]
    · next hq =>
      have hne : (place == q) = false := beq_false_of_ne (Ne.symm hq)
      rw [List.lookup_cons, hne]
      exact ih

theorem write_eq_ok_iff : s.write p bytes = .ok s' ↔
    ∃ place, s.filePlace p = .ok place ∧
      s' = { s with files := setFile place bytes s.files } := by
  unfold write
  constructor
  · intro h
    obtain ⟨place, hplace, hs⟩ := map_eq_ok_iff.mp h
    exact ⟨place, hplace, hs.symm⟩
  · rintro ⟨place, hplace, rfl⟩
    rw [hplace]
    rfl

theorem filePlace_eq_ok (h : s.filePlace p = .ok place) : place = s.placeOf p := by
  unfold filePlace at h
  split at h
  · cases h
  · next hresolve =>
    split at h
    · cases h
    · cases h
      exact resolve_eq_ok hresolve

/-- A file that is written is held at the place of its path. -/
theorem holding_of_write (h : s.write p bytes = .ok s') : s.Holding (s.placeOf p) bytes s' := by
  obtain ⟨place, hplace, rfl⟩ := write_eq_ok_iff.mp h
  obtain rfl := filePlace_eq_ok hplace
  refine ⟨rfl, rfl, fun q => ?_⟩
  split
  · next hq =>
    subst hq
    exact lookup_setFile_self _ bytes s.files
  · next hq => exact lookup_setFile_of_ne hq s.files

/-- Which way parts lead depends on the directories only. -/
theorem follow_of_directories (hd : s'.directories = s.directories) {start : Place}
    {parts : List String} (h : s.follow start parts = .ok place) :
    s'.follow start parts = .ok place := by
  induction parts generalizing start with
  | nil => exact h
  | cons part rest ih =>
    obtain ⟨hshort, hway, hrest⟩ := follow_cons_eq_ok_iff.mp h
    refine follow_cons_eq_ok_iff.mpr ⟨hshort, ?_, ih hrest⟩
    unfold hasDirectory at hway ⊢
    rwa [hd]

theorem Holding.filePlace_eq_ok (h : s.Holding place bytes s') {q : Place}
    (hq : s.filePlace p = .ok q) : s'.filePlace p = .ok q := by
  unfold filePlace resolve at hq ⊢
  have hstart : s'.start p.root = s.start p.root := by
    unfold start
    rw [h.here]
  have hdirectory (r : Place) : s'.hasDirectory r = s.hasDirectory r := by
    unfold hasDirectory
    rw [h.directories]
  split at hq
  · cases hq
  · next r hr =>
    split at hr
    · cases hr
    · next hnull =>
      split at hr
      · cases hr
      · next hlong =>
        rw [if_neg hnull, if_neg hlong, hstart, follow_of_directories h.directories hr]
        simpa only [hdirectory] using hq

/-- What has been written to a path can be written to it again. -/
theorem exists_write_of_write (h : s.write p bytes = .ok s') (bytes' : List UInt8) :
    ∃ s'', s'.write p bytes' = .ok s'' := by
  obtain ⟨place, hplace, -⟩ := write_eq_ok_iff.mp h
  exact ⟨_, write_eq_ok_iff.mpr ⟨place, (holding_of_write h).filePlace_eq_ok hplace, rfl⟩⟩

end Files.Store

/-! ## One schema after the other -/

/-- What becomes of the first of several schemas that are written, and of the run with it. -/
inductive FirstWrite (encoding : Encoding) (directory : Path) (store : Store) (a : Artifact)
    (rest : List Artifact) (run : Stored GenerationFault (List Path)) : Prop
  /-- There can be no file at its path. -/
  | refused (fault : FileFault) (kept : run.store = store)
    (result : run.report.result = .error (.storing fault))
  /-- Its file has been made empty, but its text has no encoding. -/
  | emptied (fault : Encoding.Unencodable) (unencodable : encoding.encode a.text = .error fault)
    (holding : store.Holding (store.placeOf (directory / a.filename)) [] run.store)
    (result : run.report.result = .error (.encoding fault))
  /-- Its file has been written, and the others are. -/
  | filled (bytes : List UInt8) (filled : Store) (encoded : encoding.encode a.text = .ok bytes)
    (holding : store.Holding (store.placeOf (directory / a.filename)) bytes filled)
    (others : run.store = (writeEach encoding directory filled rest).store)
    (result : run.report.result = (writeEach encoding directory filled rest).report.result.map
      (directory / a.filename :: ·))

theorem firstWrite (encoding : Encoding) (directory : Path) (store : Store) (a : Artifact)
    (rest : List Artifact) :
    FirstWrite encoding directory store a rest
      (writeEach encoding directory store (a :: rest)) := by
  unfold writeEach
  simp only
  split
  · next fault _ => exact .refused fault rfl rfl
  · next emptied hemptied =>
    have hempty := Store.holding_of_write hemptied
    split
    · next fault hfault => exact .emptied fault hfault hempty rfl
    · next bytes hbytes =>
      obtain ⟨filled, hfilled⟩ := Store.exists_write_of_write hemptied bytes
      have hfull := Store.holding_of_write hfilled
      rw [Store.placeOf_congr hempty.here] at hfull
      rw [hfilled]
      refine .filled bytes filled hbytes (hempty.trans hfull) rfl ?_
      exact (Reporting.result_bind_of_ok rfl _).trans (Reporting.result_bind_pure _ _)

end RoleSchema
