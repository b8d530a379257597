import RoleSchema.Proofs.Result
import RoleSchema.Report.Table

/-!
# What tables show

A text with tags is shown as it stands where it has no brackets, no tabs, no control characters and
no two colons that could hold the name of an emoji. A table is shown exactly if each of its texts is, each in its place.

* `Markup.rendered_of_plain`: plain texts are shown as they are.
* `Table.shown_eq_ok_iff`: what a table shows.
-/

namespace RoleSchema

/-! ## Texts -/

namespace Text

theorem mem_joinBy {separator : Char} {pieces : List (List Char)} {piece : List Char} {c : Char}
    (hpiece : piece ∈ pieces) (hc : c ∈ piece) : c ∈ joinBy separator pieces := by
  fun_induction joinBy separator pieces with
  | case1 => simp at hpiece
  | case2 only =>
    obtain rfl := List.mem_singleton.mp hpiece
    exact hc
  | case3 first rest _ ih =>
    rcases List.mem_cons.mp hpiece with rfl | hrest
    · exact List.mem_append_left _ hc
    · exact List.mem_append_right _ (List.mem_cons_of_mem _ (ih hrest))

/-- A name of an emoji takes two colons. -/
theorem replaceEmoji_of_count_le_one {cs : List Char} (h : cs.count ':' ≤ 1) :
    replaceEmoji cs = cs := by
  induction cs with
  | nil => rw [replaceEmoji]
  | cons c rest ih =>
    rw [replaceEmoji]
    by_cases hc : c = ':'
    · subst hc
      have hrest : ':' ∉ rest := List.count_eq_zero.mp (by simpa using h)
      have hname : colonName? rest = none := by
        unfold colonName?
        simp only [ite_eq_right_iff]
        exact fun hcolon => absurd (List.mem_of_getElem? hcolon) hrest
      simp only [if_true, hname, replaceEmoji_of_no_colon hrest]
    · simp only [hc, if_false]
      rw [ih (by simpa [List.count_cons, hc] using h)]

end Text

namespace Terminal

theorem visible_of_plain {cs : List Char} (hcolon : cs.count ':' ≤ 1)
    (hsilent : ∀ c ∈ cs, isSilent c = false) : visible cs = cs := by
  unfold visible
  rw [Text.replaceEmoji_of_count_le_one hcolon]
  exact List.filter_eq_self.mpr fun c hc => by simp [hsilent c hc]

theorem laidOut_of_no_tab {cs : List Char} (h : '\t' ∉ cs) : laidOut cs = String.ofList cs := by
  have hpieces : (Text.splitOn '\n' cs).map (expandTabs 0) = Text.splitOn '\n' cs := by
    refine List.map_congr_left (fun piece hpiece => ?_) |>.trans (List.map_id _)
    refine expandTabs_of_no_tab 0 fun htab => h ?_
    rw [← Text.splitOn_join '\n' cs]
    exact Text.mem_joinBy hpiece htab
  unfold laidOut
  rw [hpieces, Text.splitOn_join]

end Terminal

namespace Markup

/-- Whether a character is no part of a tag, no tab and no control character. -/
def IsPlain (c : Char) : Prop := c ≠ '[' ∧ c ≠ '\t' ∧ Terminal.isSilent c = false

theorem isPlain_of_isDigit {c : Char} (h : c.isDigit = true) : IsPlain c := by
  refine ⟨?_, ?_, ?_⟩
  · rintro rfl
    exact absurd h (by decide)
  · rintro rfl
    exact absurd h (by decide)
  · refine Bool.eq_false_iff.mpr fun hsilent => ?_
    simp only [Terminal.isSilent, List.contains_eq_mem, List.mem_cons, List.not_mem_nil, or_false,
      decide_eq_true_eq] at hsilent
    rcases hsilent with rfl | rfl | rfl | rfl | rfl <;> exact absurd h (by decide)

theorem reverse_backslashes (cs : List Char) :
    (cs.takeWhile (· == '\\')).reverse = cs.takeWhile (· == '\\') := by
  have hall : ∀ c ∈ cs.takeWhile (· == '\\'), c = '\\' := fun c hc => by
    simpa using List.all_eq_true.mp List.all_takeWhile c hc
  rw [List.eq_replicate_of_mem hall, List.reverse_replicate]

/-- The characters of a text without brackets are one part. -/
theorem partsWithin_of_no_bracket {n position : Nat} {plain cs : List Char} (h : '[' ∉ cs)
    (hn : cs.length < n) : partsWithin n position plain cs = flushed (cs.reverse ++ plain) := by
  induction n generalizing position plain cs with
  | zero => omega
  | succ n ih =>
    have htake := List.prefix_iff_eq_take.mp (List.takeWhile_prefix (· == '\\') (l := cs))
    have hjoin : cs.takeWhile (· == '\\') ++ cs.drop (cs.takeWhile (· == '\\')).length = cs :=
      (congrArg (· ++ _) htake).trans (List.take_append_drop _ cs)
    have hreverse := reverse_backslashes cs
    unfold partsWithin
    simp only
    generalize cs.takeWhile (· == '\\') = slashes at hjoin hreverse ⊢
    split
    · next hrest =>
      rw [hrest, List.append_nil] at hjoin
      rw [← hjoin, hreverse]
    · next c rest hrest =>
      rw [hrest] at hjoin
      subst hjoin
      have hc : c ≠ '[' := fun e => h (by simp [e])
      have hlength : rest.length < n := by simp at hn; omega
      simp only [beq_iff_eq, hc, if_false]
      rw [ih (fun hmem => h (by simp [hmem])) hlength]
      simp [hreverse]

/-- Plain texts are shown as they are. -/
theorem rendered_of_plain {s : String} (h : ∀ c ∈ s.toList, IsPlain c)
    (hcolon : s.toList.count ':' ≤ 1) : rendered s = .ok s := by
  have hbracket : '[' ∉ s.toList := fun hc => (h _ hc).1 rfl
  have htab : '\t' ∉ s.toList := fun hc => (h _ hc).2.1 rfl
  have hcharacters : characters [] (parts s.toList) = .ok s.toList := by
    unfold parts
    rw [partsWithin_of_no_bracket hbracket (Nat.lt_succ_self _), List.append_nil]
    unfold flushed
    rw [List.reverse_reverse, List.isEmpty_reverse]
    split
    · next hempty => rw [List.isEmpty_iff.mp hempty]; rfl
    · unfold characters
      rw [unescaped_of_no_bracket hbracket,
        Terminal.visible_of_plain hcolon fun c hc => (h c hc).2.2]
      exact congrArg Except.ok (List.append_nil _)
  unfold rendered
  rw [hcharacters]
  exact congrArg Except.ok ((Terminal.laidOut_of_no_tab htab).trans s.ofList_toList)

theorem rendered_numeral (n : Nat) : rendered (toString n) = .ok (toString n) := by
  have hdigits : ∀ c ∈ (toString n).toList, c.isDigit = true := fun c hc =>
    Nat.isDigit_of_mem_toDigits (by decide : 0 < 10) (by decide) (Nat.toList_repr ▸ hc)
  have hcolon : ':' ∉ (toString n).toList := fun hc => absurd (hdigits _ hc) (by decide)
  refine rendered_of_plain (fun c hc => isPlain_of_isDigit (hdigits c hc)) ?_
  rw [List.count_eq_zero.mpr hcolon]
  exact Nat.zero_le 1

end Markup

/-! ## Tables -/

namespace Table

variable {t shown : Table}

theorem mem_texts {text : String} (h : text ∈ t.texts) :
    text = t.title ∨ text ∈ t.columns ∨ ∃ row ∈ t.rows, text ∈ row := by
  rcases List.mem_append.mp h with hcolumn | htitle
  · obtain ⟨⟨heading, n⟩, hheading, htext⟩ := List.mem_flatMap.mp hcolumn
    rcases List.mem_cons.mp htext with rfl | hcell
    · exact .inr (.inl (List.fst_mem_of_mem_zipIdx hheading))
    · obtain ⟨row, hrow, hget⟩ := List.mem_filterMap.mp hcell
      exact .inr (.inr ⟨row, hrow, List.mem_of_getElem? hget⟩)
  · exact .inl (List.mem_singleton.mp htitle)

/-- **What a table shows**: each of its texts as it is rendered; if one cannot be rendered, nothing. -/
theorem shown_eq_ok_iff : t.shown = .ok shown ↔ Markup.rendered t.title = .ok shown.title ∧
    t.columns.mapM Markup.rendered = .ok shown.columns ∧
    t.rows.mapM (·.mapM Markup.rendered) = .ok shown.rows := by
  unfold Table.shown
  simp only [bind_eq_ok_iff]
  constructor
  · rintro ⟨texts, -, title, htitle, columns, hcolumns, rows, hrows, hshown⟩
    cases hshown
    exact ⟨htitle, hcolumns, hrows⟩
  · rintro ⟨htitle, hcolumns, hrows⟩
    -- going through the texts meets none that cannot be shown
    have htexts : ∀ text ∈ t.texts, ∃ text', Markup.rendered text = .ok text' ∧ True := by
      intro text htext
      rcases mem_texts htext with rfl | hcolumn | ⟨row, hrow, hcell⟩
      · exact ⟨_, htitle, trivial⟩
      · obtain ⟨text', h⟩ := exists_of_mapM_of_mem hcolumns text hcolumn
        exact ⟨text', h, trivial⟩
      · obtain ⟨cells, hcells⟩ := exists_of_mapM_of_mem hrows row hrow
        obtain ⟨text', h⟩ := exists_of_mapM_of_mem hcells text hcell
        exact ⟨text', h, trivial⟩
    obtain ⟨texts, hmap, -⟩ := exists_mapM_of_forall htexts
    exact ⟨texts, hmap, _, htitle, _, hcolumns, _, hrows, rfl⟩

end Table

end RoleSchema
