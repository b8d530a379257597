import RoleSchema.Proofs.Naming.Words
import RoleSchema.Proofs.Relation.Lines

/-!
# What is kept of a label

The words of a label that begins with a capital are read in a scan in which a run of capitals is a
word of its own. After such a run the scan waits for the next capital, and what it passes over until
then is lost: a digit that follows a capital is in no word. Nothing is lost exactly if each capital
of the label is followed by a letter or by nothing, and exactly then labels that differ in their
digits keep different tokens.

* `IsGapless`: labels of which nothing is passed over.
* `flatten_labelWords_iff`: the words of these are the whole label.
* `IsKeptWhole`, `eq_of_modeToken_eq`: two of these with the same letters have different tokens.
* `labelWordsFrom_of_digit`: a digit after a capital is in no word.
* `ObjectType.modeToken_keeps_iff`: what the token of a reference mode keeps.
-/

namespace RoleSchema

/-! ## Gaps -/

/-- No capital is directly followed by anything but a letter of ASCII. -/
def IsGapless (label : List Char) : Prop :=
  label.IsChain fun c d => isCapital c = true → d.isAlpha = true

instance (label : List Char) : Decidable (IsGapless label) :=
  inferInstanceAs (Decidable (List.IsChain _ _))

theorem isGapless_cons_of_other {c : Char} (rest : List Char) (hc : isCapital c = false) :
    IsGapless (c :: rest) ↔ IsGapless rest := by
  cases rest with
  | nil => simp [IsGapless]
  | cons d rest => simp [IsGapless, List.isChain_cons_cons, hc]

theorem isGapless_cons_of_capital {c d : Char} (rest : List Char) (hc : isCapital c = true) :
    IsGapless (c :: d :: rest) ↔ d.isAlpha = true ∧ IsGapless (d :: rest) := by
  simp [IsGapless, List.isChain_cons_cons, hc]

theorem isAlpha_of_capital {c : Char} (hc : isCapital c = true) : c.isAlpha = true := by
  rw [Char.isAlpha, Bool.or_eq_true]
  exact Or.inl hc

/-- A small letter goes on with the word of the capital before it. -/
theorem isGapless_cons_of_lower {c d : Char} (rest : List Char) (hc : isCapital c = true)
    (hd : d.isLower = true) : IsGapless (c :: d :: rest) ↔ IsGapless rest := by
  have hother : isCapital d = false :=
    Bool.eq_false_iff.mpr (Char.not_isUpper_of_isLower hd)
  have halpha : d.isAlpha = true := by
    rw [Char.isAlpha, Bool.or_eq_true]
    exact Or.inr hd
  rw [isGapless_cons_of_capital rest hc, isGapless_cons_of_other rest hother]
  exact and_iff_right halpha

/-! ## The words of a label -/

/-- The words of a label in order are the label without some of its characters. -/
theorem sublist_labelWordsFrom (state : LabelState) (cs : List Char) :
    (labelWordsFrom state cs).flatten.Sublist (state.chars.reverse ++ cs) := by
  fun_induction labelWordsFrom state cs with
  | case1 => exact List.nil_sublist _
  | case2 last before => simp [LabelState.chars]
  | case3 chars => simp [LabelState.chars]
  | case4 c rest hc ih => exact ih
  | case5 c rest hc ih => exact ih.cons c
  | case6 last before c rest hc ih => simpa [LabelState.chars] using ih
  | case7 last before c rest hc hlower hempty ih =>
    obtain rfl := List.isEmpty_iff.mp hempty
    exact ih
  | case8 last before c rest hc hlower hempty ih =>
    simpa [LabelState.chars] using ih
  | case9 last before c rest hc hlower ih =>
    -- the character between the words is left out
    simpa [LabelState.chars] using ih.cons c
  | case10 chars c rest hc ih => simpa [LabelState.chars] using ih
  | case11 chars c rest hc ih => simpa [LabelState.chars] using ih

/-- A run of capitals that is being read ends with a capital. -/
def LabelState.IsProper : LabelState → Prop
  | .capitals last _ => isCapital last = true
  | .between | .word _ => True

/-- Nothing between the words of a label will be left out. -/
def LabelState.GoesOn : LabelState → List Char → Prop
  | .between, [] => True
  | .between, c :: rest => isCapital c = true ∧ IsGapless (c :: rest)
  | .capitals last _, cs => IsGapless (last :: cs)
  | .word _, cs => IsGapless cs

/-- What is left out is missing. -/
theorem flatten_labelWordsFrom_ne (c : Char) (rest : List Char) :
    (labelWordsFrom .between rest).flatten ≠ c :: rest := by
  intro heq
  have hle := (sublist_labelWordsFrom .between rest).length_le
  rw [heq] at hle
  simp [LabelState.chars] at hle

theorem flatten_labelWordsFrom_iff {state : LabelState} {cs : List Char} (h : state.IsProper) :
    (labelWordsFrom state cs).flatten = state.chars.reverse ++ cs ↔ state.GoesOn cs := by
  fun_induction labelWordsFrom state cs with
  | case1 => simp [LabelState.chars, LabelState.GoesOn]
  | case2 last before => simp [LabelState.chars, LabelState.GoesOn, IsGapless]
  | case3 chars => simp [LabelState.chars, LabelState.GoesOn, IsGapless]
  | case4 c rest hc ih =>
    have hrun := ih hc
    simpa [LabelState.chars, LabelState.GoesOn, hc] using hrun
  | case5 c rest hc ih =>
    exact iff_of_false (flatten_labelWordsFrom_ne c rest) fun hgoes => hc hgoes.1
  | case6 last before c rest hc ih =>
    have hrun := ih hc
    have hlink : IsGapless (last :: c :: rest) ↔ IsGapless (c :: rest) := by
      rw [isGapless_cons_of_capital rest h, isAlpha_of_capital hc]
      simp
    simpa [LabelState.chars, LabelState.GoesOn, hlink] using hrun
  | case7 last before c rest hc hlower hempty ih =>
    obtain rfl := List.isEmpty_iff.mp hempty
    have hword := ih trivial
    simpa [LabelState.chars, LabelState.GoesOn, isGapless_cons_of_lower rest h hlower] using hword
  | case8 last before c rest hc hlower hempty ih =>
    have hword := ih trivial
    simpa [LabelState.chars, LabelState.GoesOn, isGapless_cons_of_lower rest h hlower] using hword
  | case9 last before c rest hc hlower ih =>
    have halpha : c.isAlpha = false := by
      rw [Char.isAlpha, Bool.or_eq_false_iff]
      exact ⟨Bool.eq_false_iff.mpr hc, Bool.eq_false_iff.mpr hlower⟩
    refine iff_of_false ?_ fun hgoes => ?_
    · rw [List.flatten_cons]
      exact fun heq => flatten_labelWordsFrom_ne c rest (List.append_cancel_left heq)
    · rw [LabelState.GoesOn, isGapless_cons_of_capital rest h, halpha] at hgoes
      exact absurd hgoes.1 Bool.false_ne_true
  | case10 chars c rest hc ih =>
    have hrun := ih hc
    simpa [LabelState.chars, LabelState.GoesOn] using hrun
  | case11 chars c rest hc ih =>
    have hword := ih trivial
    have hlink := isGapless_cons_of_other rest (Bool.eq_false_iff.mpr hc)
    simpa [LabelState.chars, LabelState.GoesOn, hlink] using hword

/-- The words of a label that begins with a capital are the whole label exactly if no capital of it
is directly followed by anything but a letter. -/
theorem flatten_labelWords_iff {label : List Char} (h : BeginsWithCapital label) :
    (labelWords label).flatten = label ↔ IsGapless label := by
  obtain ⟨c, rest, rfl, hc⟩ := exists_cons_of_beginsWithCapital h
  have hwords : (labelWordsFrom .between (c :: rest)).flatten =
      LabelState.between.chars.reverse ++ c :: rest ↔ LabelState.between.GoesOn (c :: rest) :=
    flatten_labelWordsFrom_iff trivial
  simpa [labelWords, LabelState.chars, LabelState.GoesOn, hc] using hwords

theorem modeToken_of_beginsWithCapital {mode : String} (h : BeginsWithCapital mode.toList) :
    modeToken mode = joinSmall (labelWords mode.toList) := by
  obtain ⟨c, rest, hmode, hc⟩ := exists_cons_of_beginsWithCapital h
  simp [modeToken, hmode, hc]

theorem modeToken_of_not_beginsWithCapital {mode : String}
    (h : ¬ BeginsWithCapital mode.toList) : modeToken mode = mode := by
  unfold modeToken
  split
  · next c rest hmode =>
    have hc : ¬ isCapital c = true := fun hc => h ⟨c, by simp [hmode], hc⟩
    rw [if_neg hc]
  · rfl

/-! ## Labels with the same letters -/

/-- The letters tell which of the characters in small letters were capitals. -/
theorem eq_of_map_toLower_eq {cs ds : List Char}
    (hlower : cs.map Char.toLower = ds.map Char.toLower)
    (hletters : cs.filter Char.isAlpha = ds.filter Char.isAlpha) : cs = ds := by
  induction cs generalizing ds with
  | nil => exact (List.map_eq_nil_iff.mp hlower.symm).symm
  | cons c cs ih =>
    cases ds with
    | nil => simp at hlower
    | cons d ds =>
      obtain ⟨hfirst, hrest⟩ := List.cons.inj hlower
      have halpha : c.isAlpha = d.isAlpha := by
        rw [← Char.isAlpha_toLower_eq_isAlpha c, hfirst, Char.isAlpha_toLower_eq_isAlpha]
      cases hd : d.isAlpha with
      | true =>
        rw [List.filter_cons_of_pos (halpha.trans hd), List.filter_cons_of_pos hd] at hletters
        obtain ⟨rfl, hothers⟩ := List.cons.inj hletters
        rw [ih hrest hothers]
      | false =>
        have hc := halpha.trans hd
        rw [List.filter_cons_of_neg (Bool.eq_false_iff.mp hc),
          List.filter_cons_of_neg (Bool.eq_false_iff.mp hd)] at hletters
        rw [Char.isAlpha, Bool.or_eq_false_iff] at hc hd
        rw [toLower_of_not_capital hc.1, toLower_of_not_capital hd.1] at hfirst
        rw [hfirst, ih hrest hletters]

/-- A mode of letters and digits that begins with a capital and of which nothing is passed over. -/
structure IsKeptWhole (mode : String) : Prop extends IsPlainName mode where
  gapless : IsGapless mode.toList

/-- The whole mode in small letters stands between the underscores of its token. -/
theorem splitOn_modeToken {mode : String} (h : IsKeptWhole mode) :
    ((modeToken mode).toList.splitOn '_').flatten = mode.toList.map Char.toLower := by
  have hwhole := (flatten_labelWords_iff h.begins).mpr h.gapless
  have hne : labelWords mode.toList ≠ [] := by
    intro hnil
    obtain ⟨c, rest, hmode, -⟩ := exists_cons_of_beginsWithCapital h.begins
    rw [hnil, hmode] at hwhole
    cases hwhole
  have hplain : ∀ w ∈ labelWords mode.toList, IsPlain w := by
    refine isPlain_of_flatten ?_
    rw [hwhole]
    exact isPlain_of_alphanumeric h.alphanumeric
  rw [modeToken_of_beginsWithCapital h.begins, splitOn_joinSmall hne hplain, ← List.map_flatten,
    hwhole]

/-- Modes that are kept whole and have the same letters are told apart by their tokens. -/
theorem eq_of_modeToken_eq {mode other : String} (h : IsKeptWhole mode) (h' : IsKeptWhole other)
    (hletters : other.toList.filter Char.isAlpha = mode.toList.filter Char.isAlpha)
    (htoken : modeToken other = modeToken mode) : other = mode := by
  refine String.toList_inj.mp (eq_of_map_toLower_eq ?_ hletters)
  rw [← splitOn_modeToken h, ← splitOn_modeToken h', htoken]

/-! ## Labels with other digits -/

theorem not_isAlpha_of_isDigit {c : Char} (h : c.isDigit = true) : c.isAlpha = false := by
  simp only [Char.isAlpha, Char.isUpper, Char.isLower, Char.isDigit, Bool.or_eq_false_iff,
    Bool.and_eq_true, Bool.and_eq_false_iff, decide_eq_true_eq, decide_eq_false_iff_not,
    UInt32.le_iff_toNat_le, Char.toNat_val, UInt32.reduceToNat, Char.reduceVal] at h ⊢
  omega

/-- Every digit as the same one. -/
def hideDigit (c : Char) : Char := if c.isDigit then '0' else c

theorem hideDigit_of_isDigit {c : Char} (h : c.isDigit = true) : hideDigit c = '0' := if_pos h

theorem hideDigit_of_isAlpha {c : Char} (h : c.isAlpha = true) : hideDigit c = c := by
  refine if_neg fun hdigit => ?_
  rw [not_isAlpha_of_isDigit hdigit] at h
  cases h

theorem isAlpha_hideDigit (c : Char) : (hideDigit c).isAlpha = c.isAlpha := by
  unfold hideDigit
  split
  · next h => rw [not_isAlpha_of_isDigit h]; decide
  · rfl

theorem isDigit_hideDigit (c : Char) : (hideDigit c).isDigit = c.isDigit := by
  unfold hideDigit
  split
  · next h => rw [h]; decide
  · rfl

theorem isCapital_hideDigit (c : Char) : isCapital (hideDigit c) = isCapital c := by
  unfold hideDigit
  split
  · next h =>
    have halpha := not_isAlpha_of_isDigit h
    rw [Char.isAlpha, Bool.or_eq_false_iff] at halpha
    rw [isCapital, isCapital, halpha.1]
    decide
  · rfl

/-- The labels differ in their digits at most, which stand in the same places. -/
def OtherDigits (label other : List Char) : Prop :=
  other.map hideDigit = label.map hideDigit

theorem isGapless_map_hideDigit (label : List Char) :
    IsGapless (label.map hideDigit) ↔ IsGapless label := by
  simp only [IsGapless, List.isChain_map, isCapital_hideDigit, isAlpha_hideDigit]

theorem beginsWithCapital_map_hideDigit (label : List Char) :
    BeginsWithCapital (label.map hideDigit) ↔ BeginsWithCapital label := by
  simp [BeginsWithCapital, isCapital_hideDigit]

theorem filter_isAlpha_map_hideDigit (label : List Char) :
    (label.map hideDigit).filter Char.isAlpha = label.filter Char.isAlpha := by
  have hsame : Char.isAlpha ∘ hideDigit = Char.isAlpha := funext isAlpha_hideDigit
  rw [List.filter_map, hsame]
  have hletters : ∀ c ∈ label.filter Char.isAlpha, hideDigit c = c := fun c hc =>
    hideDigit_of_isAlpha (List.mem_filter.mp hc).2
  rw [List.map_congr_left hletters, List.map_id']

theorem forall_isAlphanum_map_hideDigit (label : List Char) :
    (∀ c ∈ label.map hideDigit, c.isAlphanum = true) ↔ ∀ c ∈ label, c.isAlphanum = true := by
  simp only [List.forall_mem_map, Char.isAlphanum, isAlpha_hideDigit, isDigit_hideDigit]

namespace OtherDigits

variable {label other : List Char} (h : OtherDigits label other)

include h

theorem isGapless (hlabel : IsGapless label) : IsGapless other := by
  rw [← isGapless_map_hideDigit] at hlabel ⊢
  exact h.symm ▸ hlabel

theorem beginsWithCapital (hlabel : BeginsWithCapital label) : BeginsWithCapital other := by
  rw [← beginsWithCapital_map_hideDigit] at hlabel ⊢
  exact h.symm ▸ hlabel

theorem filter_isAlpha : other.filter Char.isAlpha = label.filter Char.isAlpha := by
  rw [← filter_isAlpha_map_hideDigit other, h, filter_isAlpha_map_hideDigit]

theorem isAlphanum (hlabel : ∀ c ∈ label, c.isAlphanum = true) :
    ∀ c ∈ other, c.isAlphanum = true := by
  rw [← forall_isAlphanum_map_hideDigit] at hlabel ⊢
  exact h.symm ▸ hlabel

end OtherDigits

theorem OtherDigits.isKeptWhole {mode other : String} (h : OtherDigits mode.toList other.toList)
    (hmode : IsKeptWhole mode) : IsKeptWhole other where
  begins := h.beginsWithCapital hmode.begins
  alphanumeric := h.isAlphanum hmode.alphanumeric
  gapless := h.isGapless hmode.gapless

/-- A digit after a capital is in no word, so that another one in its place makes no difference. -/
theorem labelWordsFrom_of_digit {c d d' : Char} (hc : isCapital c = true) (hd : d.isAlpha = false)
    (hd' : d'.isAlpha = false) (state : LabelState) (before after : List Char) :
    labelWordsFrom state (before ++ c :: d :: after) =
      labelWordsFrom state (before ++ c :: d' :: after) := by
  rw [Char.isAlpha, Bool.or_eq_false_iff] at hd hd'
  induction before generalizing state with
  | nil =>
    -- the run that the capital ends is a word, and the digit is passed over
    rw [isCapital] at hc
    cases state <;> simp [labelWordsFrom, isCapital, hc, hd, hd']
  | cons x before ih => cases state <;> simp [labelWordsFrom, ih]

/-- Where a label of letters and digits has a digit after a capital, another label has the same
words. -/
theorem exists_otherDigits {label : List Char} (hplain : ∀ c ∈ label, c.isAlphanum = true)
    (hgap : ¬ IsGapless label) :
    ∃ other, OtherDigits label other ∧ labelWords other = labelWords label ∧ other ≠ label := by
  simp only [IsGapless, List.isChain_iff_forall_rel_of_append_cons_cons, not_forall] at hgap
  obtain ⟨c, d, before, after, rfl, hc, hd⟩ := hgap
  rw [Bool.not_eq_true] at hd
  have hdigit : d.isDigit = true := by
    have halnum := hplain d (by simp)
    rwa [Char.isAlphanum, hd, Bool.false_or] at halnum
  obtain ⟨d', hdigit', hne⟩ : ∃ d' : Char, d'.isDigit = true ∧ d' ≠ d := by
    by_cases hzero : d = '0'
    · exact ⟨'1', by decide, by rw [hzero]; decide⟩
    · exact ⟨'0', by decide, fun h => hzero h.symm⟩
  have hd' := not_isAlpha_of_isDigit hdigit'
  refine ⟨before ++ c :: d' :: after, ?_, labelWordsFrom_of_digit hc hd' hd .between before after,
    fun hsame => hne ?_⟩
  · simp [OtherDigits, hideDigit_of_isDigit hdigit, hideDigit_of_isDigit hdigit']
  · simpa using hsame

/-! ## Tokens -/

/-- A plain mode is kept whole exactly if its token tells it from modes with other digits. -/
theorem isGapless_iff_modeToken {mode : String} (hmode : IsPlainName mode) :
    IsGapless mode.toList ↔ ∀ other : String, OtherDigits mode.toList other.toList →
      modeToken other = modeToken mode → other = mode := by
  constructor
  · intro hgapless other h
    have hwhole : IsKeptWhole mode := { hmode with gapless := hgapless }
    exact eq_of_modeToken_eq hwhole (h.isKeptWhole hwhole) h.filter_isAlpha
  · intro hkeeps
    by_contra hgap
    obtain ⟨label, h, hwords, hne⟩ := exists_otherDigits hmode.alphanumeric hgap
    have hbegins := h.beginsWithCapital hmode.begins
    have htoken : modeToken (String.ofList label) = modeToken mode := by
      rw [modeToken_of_beginsWithCapital hmode.begins,
        modeToken_of_beginsWithCapital (by rwa [String.toList_ofList]), String.toList_ofList,
        hwords]
    have hsame := hkeeps (String.ofList label) (by rwa [String.toList_ofList]) htoken
    exact hne (by rw [← hsame, String.toList_ofList])

/-- **What the token of a reference mode keeps.** A mode that begins with a capital gives the words
of its label, and these are the whole mode exactly if each of its capitals is followed by a letter
or by nothing. Two such modes of letters and digits with the same letters have different tokens, and
exactly such modes have another token than each mode with other digits in the same places. Any mode
that does not begin with a capital is its own token. -/
theorem ObjectType.modeToken_keeps_iff (e : ObjectType) :
    (BeginsWithCapital e.referenceMode.toList →
        e.modeToken = joinSmall (labelWords e.referenceMode.toList) ∧
          ((labelWords e.referenceMode.toList).flatten = e.referenceMode.toList ↔
            IsGapless e.referenceMode.toList)) ∧
      (IsKeptWhole e.referenceMode → ∀ other : ObjectType, IsKeptWhole other.referenceMode →
        other.referenceMode.toList.filter Char.isAlpha =
          e.referenceMode.toList.filter Char.isAlpha →
        other.modeToken = e.modeToken → other.referenceMode = e.referenceMode) ∧
      (IsPlainName e.referenceMode →
        (IsGapless e.referenceMode.toList ↔
          ∀ other : ObjectType, OtherDigits e.referenceMode.toList other.referenceMode.toList →
            other.modeToken = e.modeToken → other.referenceMode = e.referenceMode)) ∧
      (¬ BeginsWithCapital e.referenceMode.toList → e.modeToken = e.referenceMode) := by
  refine ⟨fun h => ⟨modeToken_of_beginsWithCapital h, flatten_labelWords_iff h⟩,
    fun h other h' => eq_of_modeToken_eq h h',
    fun hmode => (isGapless_iff_modeToken hmode).trans
      ⟨fun hkeeps other => ?_, fun hkeeps other => ?_⟩,
    modeToken_of_not_beginsWithCapital⟩
  · exact hkeeps other.referenceMode
  · exact hkeeps { e with referenceMode := other }

namespace Books

/-- A kind of books with a way to refer to them. -/
def identifiedBy (mode : String) : ObjectType where
  id := some "book"
  name := "Book"
  kind := .entity
  referenceMode := mode

/-- A run of capitals before digits is a word of its own, after which the digits are passed over. -/
theorem modeToken_loses_digits :
    BeginsWithCapital (identifiedBy "ISBN10").referenceMode.toList ∧
      (labelWords (identifiedBy "ISBN10").referenceMode.toList).flatten ≠
        (identifiedBy "ISBN10").referenceMode.toList ∧
      (identifiedBy "ISBN10").modeToken = "isbn" ∧ (identifiedBy "ISBN13").modeToken = "isbn" := by
  decide

theorem isKeptWhole_isbn10 : IsKeptWhole "Isbn10" where
  begins := by decide
  alphanumeric := List.all_eq_true.mp (by decide)
  gapless := by decide

theorem isKeptWhole_isbn13 : IsKeptWhole "Isbn13" where
  begins := by decide
  alphanumeric := List.all_eq_true.mp (by decide)
  gapless := by decide

/-- Digits after small letters are kept, and a small first letter keeps everything. -/
theorem modeToken_keeps_isbn :
    (labelWords (identifiedBy "Isbn10").referenceMode.toList).flatten = "Isbn10".toList ∧
      (identifiedBy "Isbn13").modeToken ≠ (identifiedBy "Isbn10").modeToken ∧
      (identifiedBy "iSBN10").modeToken = "iSBN10" := by
  obtain ⟨hwords, hpair, -, -⟩ := (identifiedBy "Isbn10").modeToken_keeps_iff
  have hverbatim := (identifiedBy "iSBN10").modeToken_keeps_iff.2.2.2 (by decide)
  refine ⟨(hwords isKeptWhole_isbn10.begins).2.mpr isKeptWhole_isbn10.gapless, fun htoken => ?_,
    hverbatim⟩
  have hsame := hpair isKeptWhole_isbn10 (identifiedBy "Isbn13") isKeptWhole_isbn13 (by decide)
    htoken
  exact absurd hsame (by decide)

end Books

end RoleSchema
