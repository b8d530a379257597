import Mathlib.Data.List.TakeWhile
import RoleSchema.Concept
import RoleSchema.Proofs.Text.Lines

/-!
# What the name of a diagram tells

The name of a diagram that is about a concept consists of the concept, a remark and the ending; a
line feed may come after them. A concept has no marks: it goes on up to the first of them, which
begins the remark or, where there is none, the ending. The remark is on one line. So there is only
one way to read a name, and it is what `conceptToken` finds.

* `Tells`: the name as concept, remark and ending.
* `Tells.unique`: a name tells of one concept with one remark.
* `conceptToken_reads`: the concept that is found.
* `Halls.conceptToken_stops_at_bracket`: a closing bracket is a mark, too.
-/

namespace RoleSchema

/-- The characters that end the name of a concept. -/
def conceptMarks : List Char := "(:| )".toList

/-- A name, but for one line feed at its end, is a concept without marks, a remark on one line and
the ending. The remark may be missing, and begins with a mark otherwise. -/
structure Tells (marks name concept remark : List Char) : Prop where
  text : name = concept ++ (remark ++ conceptEnding) ∨
    name = concept ++ (remark ++ conceptEnding ++ ['\n'])
  named : concept ≠ []
  unmarked : ∀ c ∈ concept, c ∉ marks
  begins : ∀ c ∈ remark.head?, c ∈ marks
  oneLine : '\n' ∉ remark

/-- The longest beginning of a name that has no marks. -/
def IsLongestUnmarked (marks name concept : List Char) : Prop :=
  concept <+: name ∧ (∀ c ∈ concept, c ∉ marks) ∧
    ∀ p, p <+: name → (∀ c ∈ p, c ∉ marks) → p <+: concept

/-! ## Up to the first mark -/

theorem isConceptChar_iff {c : Char} : isConceptChar c = true ↔ c ∉ conceptMarks := by
  simp [isConceptChar, conceptMarks, and_assoc]

theorem isConceptChar_eq_false_iff {c : Char} : isConceptChar c = false ↔ c ∈ conceptMarks := by
  rw [← Bool.not_eq_true, isConceptChar_iff, not_not]

section

variable {p : Char → Bool} {before after : List Char}

theorem takeWhile_append_of_head (hbefore : ∀ c ∈ before, p c = true)
    (hafter : ∀ c ∈ after.head?, p c = false) : (before ++ after).takeWhile p = before := by
  rw [List.takeWhile_append_of_pos hbefore]
  cases after with
  | nil => simp
  | cons c rest => simp [hafter c rfl]

theorem dropWhile_append_of_head (hbefore : ∀ c ∈ before, p c = true)
    (hafter : ∀ c ∈ after.head?, p c = false) : (before ++ after).dropWhile p = after := by
  rw [List.dropWhile_append_of_pos hbefore]
  cases after with
  | nil => rfl
  | cons c rest => simp [hafter c rfl]

theorem head?_dropWhile_eq_false (cs : List Char) : ∀ c ∈ (cs.dropWhile p).head?, p c = false := by
  intro c hc
  have h := List.head?_dropWhile_not p cs
  rwa [hc] at h

end

theorem isLongestUnmarked_takeWhile (name : List Char) :
    IsLongestUnmarked conceptMarks name (name.takeWhile isConceptChar) := by
  refine ⟨List.takeWhile_prefix _, fun c hc => ?_, ?_⟩
  · exact isConceptChar_iff.mp (List.mem_takeWhile_imp hc)
  · rintro p ⟨rest, rfl⟩ hp
    rw [List.takeWhile_append_of_pos fun c hc => isConceptChar_iff.mpr (hp c hc)]
    exact List.prefix_append p _

/-! ## The ending -/

theorem dropFinalLineFeed_concat (cs : List Char) : dropFinalLineFeed (cs ++ ['\n']) = cs := by
  simp [dropFinalLineFeed]

theorem dropFinalLineFeed_ending (cs : List Char) :
    dropFinalLineFeed (cs ++ conceptEnding) = cs ++ conceptEnding := by
  have hlast : (cs ++ conceptEnding).getLast? = some 't' := by
    rw [List.getLast?_append_of_ne_nil cs (by decide)]
    rfl
  unfold dropFinalLineFeed
  rw [if_neg (by rw [hlast]; decide)]

/-- A line feed is left out, or nothing. -/
theorem eq_dropFinalLineFeed (cs : List Char) :
    cs = dropFinalLineFeed cs ∨ cs = dropFinalLineFeed cs ++ ['\n'] := by
  unfold dropFinalLineFeed
  split
  · next hlast => exact Or.inr (List.dropLast_append_getLast? _ hlast).symm
  · exact Or.inl rfl

theorem dropFinalLineFeed_eq_iff {rest remark : List Char} :
    dropFinalLineFeed rest = remark ++ conceptEnding ↔
      rest = remark ++ conceptEnding ∨ rest = remark ++ conceptEnding ++ ['\n'] := by
  constructor
  · intro h
    rw [← h]
    exact eq_dropFinalLineFeed rest
  · rintro (rfl | rfl)
    · exact dropFinalLineFeed_ending remark
    · exact dropFinalLineFeed_concat _

/-- What is left of a name behind its concept is a remark and the ending. -/
theorem isConceptRest_iff {rest : List Char} : isConceptRest rest = true ↔
    ∃ remark, '\n' ∉ remark ∧ dropFinalLineFeed rest = remark ++ conceptEnding := by
  have honeLine (cs : List Char) : cs.all (· ≠ '\n') = true ↔ '\n' ∉ cs := by
    simp [List.all_eq_true, List.forall_mem_ne']
  have hending : conceptEnding.all (· ≠ '\n') = true := by decide
  unfold isConceptRest
  rw [Bool.and_eq_true, List.isSuffixOf_iff_suffix]
  constructor
  · rintro ⟨⟨remark, hbody⟩, hall⟩
    rw [← hbody, List.all_append, Bool.and_eq_true] at hall
    exact ⟨remark, (honeLine remark).mp hall.1, hbody.symm⟩
  · rintro ⟨remark, hremark, hbody⟩
    rw [hbody, List.all_append, Bool.and_eq_true]
    exact ⟨List.suffix_append remark conceptEnding, (honeLine remark).mpr hremark, hending⟩

/-! ## Reading -/

variable {name concept remark : List Char}

/-- The remark begins with a mark, and so does the ending. -/
theorem isConceptChar_head (hbegins : ∀ c ∈ remark.head?, c ∈ conceptMarks) (tail : List Char) :
    ∀ c ∈ (remark ++ conceptEnding ++ tail).head?, isConceptChar c = false := by
  intro c hc
  rw [isConceptChar_eq_false_iff]
  cases remark with
  | nil =>
    have hcolon : ([] ++ conceptEnding ++ tail).head? = some ':' := rfl
    obtain rfl : ':' = c := Option.some.inj (hcolon.symm.trans hc)
    decide
  | cons d rest =>
    have hd : (d :: rest ++ conceptEnding ++ tail).head? = some d := rfl
    obtain rfl : d = c := Option.some.inj (hd.symm.trans hc)
    exact hbegins d rfl

/-- A name tells of the concept up to its first mark and of the remark that begins there. -/
theorem tells_iff : Tells conceptMarks name concept remark ↔
    concept ≠ [] ∧ name.takeWhile isConceptChar = concept ∧ '\n' ∉ remark ∧
      dropFinalLineFeed (name.dropWhile isConceptChar) = remark ++ conceptEnding := by
  constructor
  · intro h
    have hconcept : ∀ c ∈ concept, isConceptChar c = true := fun c hc =>
      isConceptChar_iff.mpr (h.unmarked c hc)
    obtain ⟨tail, hrest, htail⟩ : ∃ tail, name = concept ++ (remark ++ conceptEnding ++ tail) ∧
        (tail = [] ∨ tail = ['\n']) := by
      rcases h.text with htext | htext
      · exact ⟨[], by simpa using htext, Or.inl rfl⟩
      · exact ⟨['\n'], htext, Or.inr rfl⟩
    have hhead := isConceptChar_head h.begins tail
    refine ⟨h.named, ?_, h.oneLine, ?_⟩
    · rw [hrest, takeWhile_append_of_head hconcept hhead]
    · rw [hrest, dropWhile_append_of_head hconcept hhead, dropFinalLineFeed_eq_iff]
      simpa using htail
  · rintro ⟨hnamed, rfl, honeLine, hrest⟩
    refine ⟨?_, hnamed, (isLongestUnmarked_takeWhile name).2.1, ?_, honeLine⟩
    · have hname : name = name.takeWhile isConceptChar ++ name.dropWhile isConceptChar :=
        List.takeWhile_append_dropWhile.symm
      refine (dropFinalLineFeed_eq_iff.mp hrest).imp ?_ ?_ <;>
      · intro h
        rw [← h]
        exact hname
    · intro c hc
      rw [← isConceptChar_eq_false_iff]
      refine head?_dropWhile_eq_false name c ?_
      rcases dropFinalLineFeed_eq_iff.mp hrest with h | h
      · rw [h]
        exact List.mem_head?_append_of_mem_head? hc
      · rw [h, List.append_assoc]
        exact List.mem_head?_append_of_mem_head? hc

/-- A name tells of one concept with one remark. -/
theorem Tells.unique {concept' remark' : List Char} (h : Tells conceptMarks name concept remark)
    (h' : Tells conceptMarks name concept' remark') : concept' = concept ∧ remark' = remark := by
  obtain ⟨-, hconcept, -, hrest⟩ := tells_iff.mp h
  obtain ⟨-, hconcept', -, hrest'⟩ := tells_iff.mp h'
  exact ⟨hconcept'.symm.trans hconcept, List.append_cancel_right (hrest'.symm.trans hrest)⟩

theorem conceptChars_eq_some_iff :
    conceptChars name = some concept ↔ ∃ remark, Tells conceptMarks name concept remark := by
  unfold conceptChars
  simp only [tells_iff, exists_and_left, ← isConceptRest_iff]
  constructor
  · intro h
    split at h
    · cases h
    · next c rest hconcept =>
      split at h
      · next hrest =>
        cases h
        exact ⟨List.cons_ne_nil c rest, hconcept, hrest⟩
      · cases h
  · rintro ⟨hnamed, rfl, hrest⟩
    split
    · next hnil => exact absurd hnil hnamed
    · next c rest hconcept => rw [if_pos hrest, hconcept]

/-- The concept that is found in a name is the one of which the name tells. -/
theorem conceptToken_eq_some_iff {name concept : String} : conceptToken name = some concept ↔
    ∃ remark, Tells conceptMarks name.toList concept.toList remark := by
  unfold conceptToken
  rw [← conceptChars_eq_some_iff, Option.map_eq_some_iff]
  constructor
  · rintro ⟨cs, hcs, rfl⟩
    rwa [String.toList_ofList]
  · intro h
    exact ⟨concept.toList, h, String.ofList_toList⟩

/-- A name has a concept exactly if it can be read as a concept, a remark and the ending. There is
then one way to do so, and the concept is the longest beginning of the name without marks. -/
theorem conceptToken_reads (name : String) :
    (∀ concept, conceptToken name = some concept ↔
        ∃ remark, Tells conceptMarks name.toList concept.toList remark) ∧
      (∀ concept remark, Tells conceptMarks name.toList concept remark →
        IsLongestUnmarked conceptMarks name.toList concept ∧
          ∀ concept' remark', Tells conceptMarks name.toList concept' remark' →
            concept' = concept ∧ remark' = remark) ∧
      (conceptToken name = none ↔
        ¬ ∃ concept remark, Tells conceptMarks name.toList concept remark) := by
  refine ⟨fun concept => conceptToken_eq_some_iff, fun concept remark h => ⟨?_, ?_⟩, ?_⟩
  · obtain ⟨-, rfl, -⟩ := tells_iff.mp h
    exact isLongestUnmarked_takeWhile name.toList
  · exact fun concept' remark' h' => h.unique h'
  · unfold conceptToken
    simp only [← conceptChars_eq_some_iff, Option.map_eq_none_iff]
    rw [← Option.isSome_iff_exists, Option.not_isSome_iff_eq_none]

namespace Halls

/-- A remark in brackets behind the concept. -/
theorem tells_billing : Tells conceptMarks "Subscription (billing):concept".toList
    "Subscription".toList " (billing)".toList where
  text := Or.inl (by decide)
  named := by decide
  unmarked := fun c hc => isConceptChar_iff.mp (List.all_eq_true.mp (by decide) c hc)
  begins := by
    intro c hc
    obtain rfl : ' ' = c := Option.some.inj hc
    decide
  oneLine := by decide

theorem conceptToken_billing : Tells conceptMarks "Subscription (billing):concept".toList
      "Subscription".toList " (billing)".toList ∧
    conceptToken "Subscription (billing):concept" = some "Subscription" ∧
    IsLongestUnmarked conceptMarks "Subscription (billing):concept".toList "Subscription".toList :=
  have h := conceptToken_reads "Subscription (billing):concept"
  ⟨tells_billing, (h.1 _).mpr ⟨_, tells_billing⟩, (h.2.1 _ _ tells_billing).1⟩

/-- The marks without the closing bracket do not tell what is found: a concept ends at that, too. -/
theorem conceptToken_stops_at_bracket :
    ¬ ∀ concept, conceptToken "Hall)A:concept" = some concept ↔
      ∃ remark, Tells "(:| ".toList "Hall)A:concept".toList concept.toList remark := by
  intro h
  have hunmarked : "Hall)A".toList.all (fun c => decide (c ∉ "(:| ".toList)) = true := by decide
  have htells : Tells "(:| ".toList "Hall)A:concept".toList "Hall)A".toList [] :=
    { text := Or.inl (by decide)
      named := by decide
      unmarked := fun c hc => of_decide_eq_true (List.all_eq_true.mp hunmarked c hc)
      begins := fun _ hc => nomatch hc
      oneLine := by decide }
  have hfound : conceptToken "Hall)A:concept" = some "Hall" := by decide
  have hread := (h "Hall)A").mpr ⟨[], htells⟩
  rw [hfound] at hread
  revert hread
  decide

end Halls

end RoleSchema
