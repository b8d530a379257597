import Mathlib.Data.List.Chain
import RoleSchema.Text.Case
import RoleSchema.Text.Split

/-!
# Lines

A text is on one line if it has no line feed. Texts on one line that are put together stay on one
line, and so does a text that is written in small letters: no small letter comes before the letters
of ASCII. A text whose lines are each ended by a line feed has exactly these lines, and lines in
blocks that are set apart by empty lines have exactly these blocks.

* `mem_of_mem_lowerChars`: what comes before the letters of ASCII is in a text if it is in its small
  form.
* `linesOf_unlines`: the lines of a text.
* `inBlocks_unlines`: the blocks of a text.
-/

namespace RoleSchema

/-- The text has no line feed. -/
def OneLine (s : String) : Prop := '\n' ∉ s.toList

instance (s : String) : Decidable (OneLine s) := inferInstanceAs (Decidable (_ ∉ _))

/-- The lines of a text without their line feeds. -/
def linesOf (s : String) : List String := (Text.lines s.toList).map String.ofList

/-! ## Small letters -/

section

open Text

/-- The small letters of a run are characters, and none comes before the letters of ASCII. -/
theorem lowerRuns_bounds : ∀ r ∈ lowerRuns, 0x41 ≤ (r.1 : Int) + r.2.2.2 ∧
    ((r.2.1 : Int) + r.2.2.2 < 0xD800 ∨
      0xDFFF < (r.1 : Int) + r.2.2.2 ∧ (r.2.1 : Int) + r.2.2.2 < 0x110000) := by
  decide +kernel

theorem toNat_ofNat {n : Nat} (h : n.isValidChar) : (Char.ofNat n).toNat = n := by
  rw [Char.ofNat, dif_pos h]
  rfl

theorem toNat_toLower (c : Char) : c.toLower = c ∨ 0x61 ≤ c.toLower.toNat := by
  unfold Char.toLower
  split
  · next h =>
    right
    obtain ⟨hA, hZ⟩ := h
    rw [ge_iff_le, UInt32.le_iff_toNat_le] at hA
    rw [UInt32.le_iff_toNat_le] at hZ
    have hsum : (c.val + ('a'.val - 'A'.val)).toNat = c.val.toNat + 32 := by
      rw [UInt32.toNat_add]
      have hdist : ('a'.val - 'A'.val).toNat = 32 := rfl
      have hZ' : 'Z'.val.toNat = 90 := rfl
      omega
    have hA' : 'A'.val.toNat = 65 := rfl
    rw [Char.toNat_mk, hsum]
    omega
  · exact Or.inl rfl

/-- The small letter of a character is the character itself, or does not come before the letters of
ASCII. -/
theorem lowerChar_eq_or_le (c : Char) : lowerChar c = c ∨ 0x41 ≤ (lowerChar c).toNat := by
  unfold lowerChar
  split
  · exact (toNat_toLower c).imp_right (by omega)
  · split
    · next r hr =>
      right
      have hmem := List.mem_of_find?_eq_some hr
      have hrange := List.find?_some hr
      obtain ⟨hlow, hvalid⟩ := lowerRuns_bounds r hmem
      simp only [Bool.and_eq_true, decide_eq_true_eq] at hrange
      obtain ⟨⟨hfrom, hto⟩, -⟩ := hrange
      rw [toNat_ofNat]
      · omega
      · simp only [Nat.isValidChar]
        omega
    · exact Or.inl rfl

theorem mem_of_mem_lowerAfter {c : Char} (hc : c.toNat < 0x41) (before : List Char) {cs : List Char}
    (h : c ∈ lowerAfter before cs) : c ∈ cs := by
  induction cs generalizing before with
  | nil => simp [lowerAfter] at h
  | cons d rest ih =>
    rw [lowerAfter] at h
    rcases List.mem_append.mp h with h | h
    · -- no special small form comes before the letters of ASCII
      split at h
      · split at h
        · rw [List.mem_singleton.mp h] at hc
          exact absurd hc (by decide)
        · rw [List.mem_singleton.mp h] at hc
          exact absurd hc (by decide)
      · split at h
        · simp only [List.mem_cons, List.not_mem_nil, or_false] at h
          rcases h with rfl | rfl
          · exact absurd hc (by decide)
          · exact absurd hc (by decide)
        · obtain rfl := List.mem_singleton.mp h
          rcases lowerChar_eq_or_le d with heq | hle
          · simp [heq]
          · omega
    · exact List.mem_cons_of_mem _ (ih (d :: before) h)

/-- A character before the letters of ASCII is in a text if it is in its small form. -/
theorem mem_of_mem_lowerChars {c : Char} (hc : c.toNat < 0x41) {cs : List Char}
    (h : c ∈ lowerChars cs) : c ∈ cs := mem_of_mem_lowerAfter hc [] h

end

/-! ## Texts on one line -/

theorem mem_of_mem_intercalate {α : Type} {sep : List α} {ls : List (List α)} {x : α}
    (h : x ∈ sep.intercalate ls) : x ∈ sep ∨ ∃ l ∈ ls, x ∈ l := by
  induction ls with
  | nil => simp at h
  | cons l rest ih =>
    cases rest with
    | nil => exact Or.inr ⟨l, by simp, by simpa using h⟩
    | cons l' rest =>
      rw [List.intercalate_cons_cons, List.mem_append, List.mem_append] at h
      rcases h with (h | h) | h
      · exact Or.inr ⟨l, by simp, h⟩
      · exact Or.inl h
      · rcases ih h with h | ⟨k, hk, h⟩
        · exact Or.inl h
        · exact Or.inr ⟨k, by simp [hk], h⟩

namespace OneLine

variable {s t : String}

theorem append (hs : OneLine s) (ht : OneLine t) : OneLine (s ++ t) := by
  unfold OneLine
  rw [String.toList_append, List.mem_append]
  exact fun h => h.elim hs ht

theorem intercalate {ts : List String} (hs : OneLine s) (h : ∀ t ∈ ts, OneLine t) :
    OneLine (s.intercalate ts) := by
  intro hmem
  rw [String.toList_intercalate] at hmem
  rcases mem_of_mem_intercalate hmem with hsep | ⟨l, hl, hmem⟩
  · exact hs hsep
  · obtain ⟨t, ht, rfl⟩ := List.mem_map.mp hl
    exact h t ht hmem

theorem lower (hs : OneLine s) : OneLine (Text.lower s) := by
  intro h
  rw [Text.lower, String.toList_ofList] at h
  exact hs (mem_of_mem_lowerChars (by decide) h)

end OneLine

/-! ## The lines of a text -/

/-- Each part but the first comes after a separator. -/
theorem intercalate_cons_flatMap {α : Type} (sep l : List α) (ls : List (List α)) :
    sep.intercalate (l :: ls) = l ++ ls.flatMap fun k => sep ++ k := by
  induction ls generalizing l with
  | nil => simp
  | cons k ls ih => rw [List.intercalate_cons_cons, ih, List.flatMap_cons]; simp

theorem textSplitOn_eq (c : Char) (cs : List Char) : Text.splitOn c cs = cs.splitOn c := by
  induction cs with
  | nil => rfl
  | cons d rest ih =>
    rw [Text.splitOn, ih, List.splitOn_eq_splitOnP, List.splitOn_eq_splitOnP,
      List.splitOnP_cons_eq_if_modifyHead]
    simp only [beq_iff_eq]
    split
    · next hnil => exact absurd hnil (List.splitOnP_ne_nil _ _)
    · next piece pieces hp => rw [hp, List.modifyHead_cons]

/-- A text whose lines are each ended by a line feed has exactly these lines. -/
theorem linesOf_unlines {ls : List String} (h : ∀ l ∈ ls, OneLine l) (hne : ls ≠ []) :
    linesOf ("\n".intercalate ls ++ "\n") = ls := by
  have hpieces : ∀ p ∈ ls.map String.toList ++ [[]], '\n' ∉ p := by
    intro p hp
    rcases List.mem_append.mp hp with hp | hp
    · obtain ⟨l, hl, rfl⟩ := List.mem_map.mp hp
      exact h l hl
    · simp [List.mem_singleton.mp hp]
  -- after the last line feed comes one more piece, which is empty
  have htext : "\n".intercalate ls ++ "\n" = "\n".intercalate (ls ++ [""]) := by
    rw [String.intercalate_append_of_ne_nil hne (by simp), String.intercalate_singleton,
      String.append_empty]
  have hlist : ("\n".intercalate ls ++ "\n").toList =
      ['\n'].intercalate (ls.map String.toList ++ [[]]) := by
    rw [htext, String.toList_intercalate, List.map_append]
    rfl
  unfold linesOf Text.lines
  rw [textSplitOn_eq, hlist, List.splitOn_intercalate '\n' hpieces (by simp)]
  simp [Function.comp_def, String.ofList_toList]

/-! ## Blocks of lines -/

/-- A text is a sequence of blocks of lines, each after an empty line. -/
structure InBlocks (text : String) (blocks : List (List String)) : Prop where
  starts : ∃ rest, text = "\n" ++ rest
  /-- The only line feed at the end ends a line that is not empty. -/
  ends : ∃ before last, text = before ++ "\n" ++ last ++ "\n" ∧ OneLine last ∧ last ≠ ""
  apart : (linesOf text).IsChain fun x y => x ≠ "" ∨ y ≠ ""
  blocks : (linesOf text).splitOn "" = [] :: blocks

/-- Blocks of lines that are not empty, each after an empty line, are what lies between the empty
lines. -/
theorem splitOn_blocks {blocks : List (List String)} (h : ∀ b ∈ blocks, "" ∉ b) :
    (blocks.flatMap fun b => "" :: b).splitOn "" = [] :: blocks := by
  have hpieces : ∀ p ∈ [] :: blocks, "" ∉ p := by simpa using h
  have hjoin := intercalate_cons_flatMap [""] [] blocks
  simp only [List.nil_append, List.singleton_append] at hjoin
  rw [← hjoin, List.splitOn_intercalate "" hpieces (by simp)]

/-- No two empty lines follow each other if no block is empty. -/
theorem isChain_blocks {blocks : List (List String)} (h : ∀ b ∈ blocks, b ≠ [] ∧ "" ∉ b) :
    (blocks.flatMap fun b => "" :: b).IsChain fun x y => x ≠ "" ∨ y ≠ "" := by
  induction blocks with
  | nil => exact .nil
  | cons b rest ih =>
    obtain ⟨hb, hempty⟩ := h b (by simp)
    obtain ⟨line, lines, rfl⟩ := List.exists_cons_of_ne_nil hb
    have hlines : ∀ l ∈ line :: lines, l ≠ "" := fun l hl hl' => hempty (hl' ▸ hl)
    have hfull : (line :: lines).IsChain fun x y => x ≠ "" ∨ y ≠ "" :=
      (List.pairwise_of_forall_mem_list fun x hx _ _ => Or.inl (hlines x hx)).isChain
    rw [List.flatMap_cons, List.isChain_append]
    refine ⟨?_, ih fun b hb => h b (by simp [hb]), ?_⟩
    · exact List.isChain_cons_cons.mpr ⟨Or.inr (hlines line (by simp)), hfull⟩
    · intro x hx y _
      rw [List.getLast?_cons_cons] at hx
      exact Or.inl (hlines x (List.mem_of_getLast? hx))

/-- Blocks begin with an empty line, other lines following. -/
theorem flatMap_blocks_eq_cons {blocks : List (List String)} (hne : blocks ≠ [])
    (h : ∀ b ∈ blocks, b ≠ []) :
    ∃ lines, lines ≠ [] ∧ (blocks.flatMap fun b => "" :: b) = "" :: lines := by
  obtain ⟨b, rest, rfl⟩ := List.exists_cons_of_ne_nil hne
  refine ⟨b ++ rest.flatMap fun b => "" :: b, ?_, rfl⟩
  exact List.append_ne_nil_of_left_ne_nil (h b (by simp)) _

/-- Blocks end with the last line of the last block. -/
theorem flatMap_blocks_eq_concat {blocks : List (List String)} (hne : blocks ≠ [])
    (h : ∀ b ∈ blocks, b ≠ []) :
    ∃ before last, before ≠ [] ∧ (∃ b ∈ blocks, last ∈ b) ∧
      (blocks.flatMap fun b => "" :: b) = before ++ [last] := by
  obtain ⟨others, b, rfl⟩ := (List.eq_nil_or_concat blocks).resolve_left hne
  rw [List.concat_eq_append] at h ⊢
  obtain ⟨lines, last, rfl⟩ := (List.eq_nil_or_concat b).resolve_left (h b (by simp))
  refine ⟨(others.flatMap fun b => "" :: b) ++ "" :: lines, last, by simp, ?_, by simp⟩
  exact ⟨lines.concat last, by simp, by simp⟩

/-- Lines in blocks that are each ended by a line feed are such a text. -/
theorem inBlocks_unlines {blocks : List (List String)} (hne : blocks ≠ [])
    (h : ∀ b ∈ blocks, b ≠ [] ∧ ∀ line ∈ b, OneLine line ∧ line ≠ "") :
    InBlocks ("\n".intercalate (blocks.flatMap fun b => "" :: b) ++ "\n") blocks := by
  have hfull : ∀ b ∈ blocks, b ≠ [] := fun b hb => (h b hb).1
  have hempty : ∀ b ∈ blocks, "" ∉ b := fun b hb hmem => ((h b hb).2 "" hmem).2 rfl
  have hlines : ∀ line ∈ blocks.flatMap fun b => "" :: b, OneLine line := by
    intro line hline
    obtain ⟨b, hb, hline⟩ := List.mem_flatMap.mp hline
    rcases List.mem_cons.mp hline with rfl | hline
    · decide
    · exact ((h b hb).2 line hline).1
  obtain ⟨rest, hrest, hfirst⟩ := flatMap_blocks_eq_cons hne hfull
  obtain ⟨before, last, hbefore, ⟨b, hb, hmem⟩, hlast⟩ := flatMap_blocks_eq_concat hne hfull
  have hof := linesOf_unlines hlines (by simp [hfirst])
  exact
    { starts := by
        refine ⟨"\n".intercalate rest ++ "\n", ?_⟩
        rw [hfirst, String.intercalate_cons_of_ne_nil hrest]
        simp [String.append_assoc]
      ends := by
        refine ⟨"\n".intercalate before, last, ?_, (h b hb).2 last hmem⟩
        rw [hlast, String.intercalate_append_of_ne_nil hbefore (by simp),
          String.intercalate_singleton]
      apart := by
        rw [hof]
        exact isChain_blocks fun b hb => ⟨hfull b hb, hempty b hb⟩
      blocks := by rw [hof, splitOn_blocks hempty] }

end RoleSchema
