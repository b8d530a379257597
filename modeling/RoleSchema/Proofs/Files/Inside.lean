import Mathlib.Data.List.Basic
import RoleSchema.Files.Store
import RoleSchema.Proofs.Result

/-!
# Paths inside a directory

A path lies inside a directory if it goes on from the directory, no `..` in it leads out of the
directory again, and it ends below it. What is put into a directory lies inside whichever directory
it is exactly if it is relative and descends; an absolute path would replace the directory. In a
store, a path inside a directory leads to a place below that of the directory.

* `forall_inside_iff`: what lies inside every directory that it is put into.
* `Path.Inside.place`: the place of a path inside a directory.
* `Store.file?_of_write`: writing to a path changes the file at its place only.
-/

namespace RoleSchema.Files

/-- Parts that are followed from `depth` names below a directory never lead out of the directory and
end below it. -/
def descends : Nat → List String → Bool
  | depth, [] => 0 < depth
  | depth, part :: rest =>
    if part = ".." then 0 < depth && descends (depth - 1) rest else descends (depth + 1) rest

namespace Path

/-- A path goes on from a directory and stays below it. -/
def Inside (p d : Path) : Prop :=
  ∃ parts, p = ⟨d.root, d.parts ++ parts⟩ ∧ descends 0 parts = true

/-- A path that replaces no directory that it is put into, and does not lead out of it. -/
def isConfined (p : Path) : Bool := p.root == .relative && descends 0 p.parts

variable {d p q : Path}

theorem join_of_relative (h : q.root = .relative) : d.join q = ⟨d.root, d.parts ++ q.parts⟩ := by
  unfold join
  rw [h]

theorem inside_append_iff {parts : List String} :
    (⟨d.root, d.parts ++ parts⟩ : Path).Inside d ↔ descends 0 parts = true := by
  constructor
  · rintro ⟨parts', hp, hd⟩
    simp only [mk.injEq, true_and, List.append_cancel_left_eq] at hp
    rwa [hp]
  · intro hd
    exact ⟨parts, rfl, hd⟩

theorem inside_join_iff (h : q.root = .relative) :
    (d.join q).Inside d ↔ descends 0 q.parts = true := by
  rw [join_of_relative h, inside_append_iff]

/-- What lies inside every directory that it is put into is relative and descends. -/
theorem forall_inside_iff : (∀ d : Path, (d.join q).Inside d) ↔ q.isConfined = true := by
  simp only [isConfined, Bool.and_eq_true, beq_iff_eq]
  constructor
  · intro h
    have hroot : q.root = .relative := by
      -- put into a relative directory, an absolute path is not inside it
      obtain ⟨parts, hp, -⟩ := h {}
      unfold join at hp
      split at hp
      · assumption
      · rw [hp]
    exact ⟨hroot, (inside_join_iff hroot).mp (h {})⟩
  · rintro ⟨hroot, hd⟩ d
    exact (inside_join_iff hroot).mpr hd

theorem root_of_isConfined (h : q.isConfined = true) : q.root = .relative := by
  simp only [isConfined, Bool.and_eq_true, beq_iff_eq] at h
  exact h.1

/-- Relative paths that are put into one directory stay different. -/
theorem join_inj (hp : p.root = .relative) (hq : q.root = .relative) :
    d.join p = d.join q ↔ p = q := by
  obtain ⟨root, parts⟩ := p
  obtain ⟨root', parts'⟩ := q
  obtain rfl : root = .relative := hp
  obtain rfl : root' = .relative := hq
  simp [join]

end Path

/-! ## Places -/

/-- The place that one part leads to. -/
def stepPlace (place : Place) (part : String) : Place :=
  if part = ".." then place.dropLast else place ++ [part]

/-- The place that a path leads to, if it leads anywhere. -/
def Store.placeOf (s : Store) (p : Path) : Place := p.parts.foldl stepPlace (s.start p.root)

namespace Store

variable {s : Store} {p : Path} {place : Place}

/-- Where parts lead: the first is no name that is too long, and it leads to a directory if others
follow. -/
theorem follow_cons_eq_ok_iff {start : Place} {part : String} {rest : List String} :
    s.follow start (part :: rest) = .ok place ↔
      ¬ maxName < part.utf8ByteSize ∧
        (rest.isEmpty || s.hasDirectory (stepPlace start part)) = true ∧
        s.follow (stepPlace start part) rest = .ok place := by
  have hfollow : s.follow start (part :: rest) = if maxName < part.utf8ByteSize then
        .error .nameTooLong
      else if rest.isEmpty || s.hasDirectory (stepPlace start part) then
        s.follow (stepPlace start part) rest
      else if (s.file? (stepPlace start part)).isSome then .error .notDirectory
      else .error .notFound := by
    rw [follow]
    rfl
  rw [hfollow]
  constructor
  · intro h
    split at h
    · cases h
    · next hshort =>
      split at h
      · next hway => exact ⟨hshort, hway, h⟩
      · split at h <;> cases h
  · rintro ⟨hshort, hway, h⟩
    rw [if_neg hshort, if_pos hway, h]

theorem follow_eq_ok {start : Place} {parts : List String} (h : s.follow start parts = .ok place) :
    place = parts.foldl stepPlace start := by
  induction parts generalizing start with
  | nil =>
    cases h
    rfl
  | cons part rest ih => exact ih (follow_cons_eq_ok_iff.mp h).2.2

/-- What a path is resolved to is its place. -/
theorem resolve_eq_ok (h : s.resolve p = .ok place) : place = s.placeOf p := by
  unfold resolve at h
  split at h
  · cases h
  · split at h
    · cases h
    · exact follow_eq_ok h

end Store

/-- Parts that descend from below a place end below it. -/
theorem foldl_stepPlace_of_descends (home : Place) {names parts : List String}
    (h : descends names.length parts = true) :
    ∃ names', names' ≠ [] ∧ parts.foldl stepPlace (home ++ names) = home ++ names' := by
  induction parts generalizing names with
  | nil =>
    have hlength : 0 < names.length := by simpa [descends] using h
    exact ⟨names, List.ne_nil_of_length_pos hlength, rfl⟩
  | cons part rest ih =>
    rw [descends] at h
    rw [List.foldl_cons, stepPlace]
    split at h
    · next hup =>
      simp only [Bool.and_eq_true, decide_eq_true_eq] at h
      rw [if_pos hup, List.dropLast_append_of_ne_nil (List.ne_nil_of_length_pos h.1)]
      exact ih (by rw [List.length_dropLast]; exact h.2)
    · next hdown =>
      rw [if_neg hdown, List.append_assoc]
      exact ih (by simpa using h)

/-- A path inside a directory leads to a place below that of the directory. -/
theorem Path.Inside.place {p d : Path} (h : p.Inside d) (s : Store) :
    ∃ names, names ≠ [] ∧ s.placeOf p = s.placeOf d ++ names := by
  obtain ⟨parts, rfl, hd⟩ := h
  have hbelow : ∃ names, names ≠ [] ∧
      parts.foldl stepPlace (s.placeOf d ++ []) = s.placeOf d ++ names :=
    foldl_stepPlace_of_descends _ hd
  rw [List.append_nil] at hbelow
  obtain ⟨names, hne, hplace⟩ := hbelow
  refine ⟨names, hne, ?_⟩
  rw [← hplace]
  exact List.foldl_append

/-! ## Writing -/

theorem lookup_setFile_of_ne {place q : Place} {bytes : List UInt8} (h : q ≠ place)
    (files : List (Place × List UInt8)) :
    (setFile place bytes files).lookup q = files.lookup q := by
  have hne : (q == place) = false := beq_false_of_ne h
  induction files with
  | nil => simp only [setFile, List.lookup_cons, List.lookup_nil, hne]
  | cons f rest ih =>
    obtain ⟨r, old⟩ := f
    unfold setFile
    split
    · next hr => simp only [List.lookup_cons, hr, hne]
    · simp only [List.lookup_cons, ih]

namespace Store

variable {s s' : Store} {p : Path}

/-- Writing to a path changes the file at its place only. -/
theorem file?_of_write {bytes : List UInt8} (h : s.write p bytes = .ok s') :
    s'.here = s.here ∧ ∀ place, place ≠ s.placeOf p → s'.file? place = s.file? place := by
  unfold write filePlace at h
  split at h
  · cases h
  · next place hr =>
    split at h
    · cases h
    · cases h
      refine ⟨rfl, fun q hq => ?_⟩
      exact lookup_setFile_of_ne (resolve_eq_ok hr ▸ hq) s.files

theorem placeOf_congr (h : s'.here = s.here) (p : Path) : s'.placeOf p = s.placeOf p := by
  unfold placeOf start
  rw [h]

theorem makeDirectory_eq_ok (h : s.makeDirectory p = .ok s') :
    s'.here = s.here ∧ s'.files = s.files := by
  unfold makeDirectory at h
  split at h
  · cases h
  · split at h
    · cases h
    · cases h
      exact ⟨rfl, rfl⟩

theorem ensureDirectory_eq_ok (h : s.ensureDirectory p = .ok s') :
    s'.here = s.here ∧ s'.files = s.files := by
  unfold ensureDirectory at h
  split at h
  · next made hmade =>
    cases h
    exact makeDirectory_eq_ok hmade
  · split at h
    · cases h
      exact ⟨rfl, rfl⟩
    · cases h

theorem makeParts_eq_ok {root : Root} {parts : List String} (h : s.makeParts root parts = .ok s') :
    s'.here = s.here ∧ s'.files = s.files := by
  induction parts generalizing s s' with
  | nil =>
    cases h
    exact ⟨rfl, rfl⟩
  | cons part above ih =>
    unfold makeParts at h
    simp only at h
    split at h
    · next made hmade =>
      cases h
      exact makeDirectory_eq_ok hmade
    · obtain ⟨above', habove, h⟩ := bind_eq_ok_iff.mp h
      obtain ⟨hhere, hfiles⟩ := ih habove
      obtain ⟨hhere', hfiles'⟩ := ensureDirectory_eq_ok h
      exact ⟨hhere'.trans hhere, hfiles'.trans hfiles⟩
    · split at h
      · cases h
        exact ⟨rfl, rfl⟩
      · cases h

/-- Making directories changes no file. -/
theorem makeDirectories_eq_ok (h : s.makeDirectories p = .ok s') :
    s'.here = s.here ∧ s'.files = s.files := makeParts_eq_ok h

end Store

end RoleSchema.Files
