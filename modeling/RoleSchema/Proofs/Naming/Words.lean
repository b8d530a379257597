import Mathlib
import RoleSchema.Naming
import RoleSchema.Proofs.Text.Lines

/-!
# The words of a name

A name that begins with a capital falls into words in one way: each word is a capital and what
follows it up to the next one. The name of the schema joins these words in small letters. Where the
name is made of letters and digits of ASCII, nothing is lost in this: the words stand between the
underscores, and each of them began with a capital.

* `AreWordsOf`: the words into which a name falls.
* `pascalCase`: the way back, from a name of the schema to one of the model.
* `splitOn_joinSmall`, `pascalCase_joinSmall`: joining words in small letters can be undone.
* `snakeCase_exact`: which names are accepted, what becomes of them, and that plain names stay
  different.
-/

namespace RoleSchema

open Text (lowerChars lowerChars_ascii)

/-! ## Words -/

/-- A name that begins with a capital. -/
def BeginsWithCapital (cs : List Char) : Prop := ∃ c ∈ cs.head?, isCapital c = true

instance (cs : List Char) : Decidable (BeginsWithCapital cs) :=
  Option.decidableExistsMem cs.head?

/-- A capital and other characters after it. -/
def IsCapitalWord (w : List Char) : Prop :=
  ∃ c rest, w = c :: rest ∧ isCapital c = true ∧ ∀ d ∈ rest, isCapital d = false

/-- The words into which a name falls at its capitals. -/
structure AreWordsOf (words : List (List Char)) (name : List Char) : Prop where
  flatten : words.flatten = name
  capital : ∀ w ∈ words, IsCapitalWord w
  length : words.length = name.countP isCapital

theorem not_beginsWithCapital_iff {cs : List Char} :
    ¬ BeginsWithCapital cs ↔ cs = [] ∨ ∃ c ∈ cs.head?, isCapital c = false := by
  cases cs with
  | nil => simp [BeginsWithCapital]
  | cons c rest => simp [BeginsWithCapital]

theorem exists_cons_of_beginsWithCapital {cs : List Char} (h : BeginsWithCapital cs) :
    ∃ c rest, cs = c :: rest ∧ isCapital c = true := by
  obtain ⟨c, hhead, hc⟩ := h
  obtain ⟨rest, rfl⟩ := List.head?_eq_some_iff.mp hhead
  exact ⟨c, rest, rfl, hc⟩

theorem splitCapitals_of_capital {c : Char} (rest : List Char) (hc : isCapital c = true) :
    splitCapitals (c :: rest) = ([], (c :: (splitCapitals rest).1) :: (splitCapitals rest).2) := by
  simp [splitCapitals, hc]

theorem splitCapitals_of_other {c : Char} (rest : List Char) (hc : isCapital c = false) :
    splitCapitals (c :: rest) = (c :: (splitCapitals rest).1, (splitCapitals rest).2) := by
  simp [splitCapitals, hc]

/-- There is no capital before the first word, and each word begins with its only one. -/
theorem capital_splitCapitals (cs : List Char) :
    (∀ c ∈ (splitCapitals cs).1, isCapital c = false) ∧
      ∀ w ∈ (splitCapitals cs).2, IsCapitalWord w := by
  induction cs with
  | nil => simp [splitCapitals]
  | cons c rest ih =>
    obtain ⟨hfirst, hwords⟩ := ih
    cases hc : isCapital c with
    | false =>
      rw [splitCapitals_of_other rest hc]
      exact ⟨List.forall_mem_cons.mpr ⟨hc, hfirst⟩, hwords⟩
    | true =>
      rw [splitCapitals_of_capital rest hc]
      have hword : IsCapitalWord (c :: (splitCapitals rest).1) := ⟨c, _, rfl, hc, hfirst⟩
      exact ⟨by simp, List.forall_mem_cons.mpr ⟨hword, hwords⟩⟩

theorem wordsOf_of_beginsWithCapital {cs : List Char} (h : BeginsWithCapital cs) :
    wordsOf cs = (splitCapitals cs).2 ∧ wordsOf cs ≠ [] := by
  obtain ⟨c, rest, rfl, hc⟩ := exists_cons_of_beginsWithCapital h
  unfold wordsOf
  rw [splitCapitals_of_capital rest hc]
  exact ⟨rfl, List.cons_ne_nil _ _⟩

theorem wordsOf_of_not_beginsWithCapital {cs : List Char} (h : ¬ BeginsWithCapital cs) :
    wordsOf cs = [] := by
  cases cs with
  | nil => rfl
  | cons c rest =>
    have hc : isCapital c = false := by simpa [BeginsWithCapital] using h
    unfold wordsOf
    rw [splitCapitals_of_other rest hc]

theorem areWordsOf_wordsOf {cs : List Char} (h : BeginsWithCapital cs) :
    AreWordsOf (wordsOf cs) cs := by
  obtain ⟨hwords, hne⟩ := wordsOf_of_beginsWithCapital h
  refine ⟨flatten_wordsOf hne, ?_, ?_⟩
  · rw [hwords]
    exact (capital_splitCapitals cs).2
  · rw [hwords, length_splitCapitals]

theorem snakeCase_of_beginsWithCapital {name : String} (h : BeginsWithCapital name.toList) :
    snakeCase name = .ok (joinSmall (wordsOf name.toList)) := by
  unfold snakeCase
  split
  · next hnil => exact absurd hnil (wordsOf_of_beginsWithCapital h).2
  · rfl

theorem snakeCase_of_not_beginsWithCapital {name : String} (h : ¬ BeginsWithCapital name.toList) :
    snakeCase name = .error (.notCapitalised name) := by
  unfold snakeCase
  rw [wordsOf_of_not_beginsWithCapital h]

/-! ## The way back -/

/-- A word with a capital at its front. -/
def capitalised : List Char → List Char
  | [] => []
  | c :: rest => c.toUpper :: rest

/-- The name of the model for a name of the schema: what stands between the underscores, each piece
with a capital at its front. -/
def pascalCase (small : String) : String :=
  String.ofList ((small.toList.splitOn '_').flatMap capitalised)

theorem toLower_of_not_capital {c : Char} (h : isCapital c = false) : c.toLower = c :=
  Char.toLower_eq_of_not_isUpper (Bool.eq_false_iff.mp h)

theorem toUpper_toLower_of_capital {c : Char} (h : isCapital c = true) :
    c.toLower.toUpper = c := by
  rw [Char.toUpper_toLower_eq_toUpper]
  exact Char.toUpper_eq_of_not_isLower (Char.not_isLower_of_isUpper h)

theorem capitalised_lower {w : List Char} (h : IsCapitalWord w) :
    capitalised (w.map Char.toLower) = w := by
  obtain ⟨c, rest, rfl, hc, hrest⟩ := h
  have hlower : rest.map Char.toLower = rest := by
    rw [List.map_congr_left fun d hd => toLower_of_not_capital (hrest d hd)]
    exact List.map_id' rest
  rw [List.map_cons, capitalised, toUpper_toLower_of_capital hc, hlower]

/-- Characters of ASCII without underscores. -/
def IsPlain (cs : List Char) : Prop := ∀ c ∈ cs, c.toNat < 0x80 ∧ c ≠ '_'

theorem lowerChars_plain {cs : List Char} (h : IsPlain cs) : lowerChars cs = cs.map Char.toLower :=
  lowerChars_ascii fun c hc => (h c hc).1

theorem underscore_notMem_lower {cs : List Char} (h : IsPlain cs) :
    '_' ∉ cs.map Char.toLower := by
  intro hmem
  obtain ⟨c, hc, hlower⟩ := List.mem_map.mp hmem
  have halpha : c.isAlpha = false := by
    rw [← Char.isAlpha_toLower_eq_isAlpha, hlower]
    decide
  have hcapital : isCapital c = false := by
    rw [Char.isAlpha, Bool.or_eq_false_iff] at halpha
    exact halpha.1
  rw [toLower_of_not_capital hcapital] at hlower
  exact (h c hc).2 hlower

theorem isPlain_of_flatten {words : List (List Char)} (h : IsPlain words.flatten) :
    ∀ w ∈ words, IsPlain w :=
  fun _ hw c hc => h c (List.mem_flatten_of_mem hw hc)

/-- Words of ASCII without underscores stand between the underscores of what joins them. -/
theorem splitOn_joinSmall {words : List (List Char)} (hne : words ≠ [])
    (hplain : ∀ w ∈ words, IsPlain w) :
    (joinSmall words).toList.splitOn '_' = words.map (·.map Char.toLower) := by
  have hlower : words.map lowerChars = words.map (·.map Char.toLower) :=
    List.map_congr_left fun w hw => lowerChars_plain (hplain w hw)
  have hsmall : (joinSmall words).toList = ['_'].intercalate (words.map lowerChars) := by
    rw [joinSmall, String.toList_intercalate, List.map_map]
    simp [Function.comp_def]
  have hpieces : ∀ piece ∈ words.map (·.map Char.toLower), '_' ∉ piece := by
    intro piece hpiece
    obtain ⟨w, hw, rfl⟩ := List.mem_map.mp hpiece
    exact underscore_notMem_lower (hplain w hw)
  rw [hsmall, hlower, List.splitOn_intercalate '_' hpieces (by simpa using hne)]

/-- Joining capital words of ASCII without underscores can be undone. -/
theorem pascalCase_joinSmall {words : List (List Char)} (hne : words ≠ [])
    (hcapital : ∀ w ∈ words, IsCapitalWord w) (hplain : ∀ w ∈ words, IsPlain w) :
    pascalCase (joinSmall words) = String.ofList words.flatten := by
  unfold pascalCase
  rw [splitOn_joinSmall hne hplain, List.flatMap_map, List.flatMap_def,
    List.map_congr_left fun w hw => capitalised_lower (hcapital w hw), List.map_id']

/-! ## Plain names -/

/-- A name of letters and digits of ASCII that begins with a capital. -/
structure IsPlainName (name : String) : Prop where
  begins : BeginsWithCapital name.toList
  alphanumeric : ∀ c ∈ name.toList, c.isAlphanum = true

theorem isPlain_of_alphanumeric {cs : List Char} (h : ∀ c ∈ cs, c.isAlphanum = true) :
    IsPlain cs := by
  intro c hc
  have halnum := h c hc
  constructor
  · simp only [Char.isAlphanum, Char.isAlpha, Char.isUpper, Char.isLower, Char.isDigit,
      Bool.or_eq_true, Bool.and_eq_true, decide_eq_true_eq, UInt32.le_iff_toNat_le,
      Char.toNat_val, UInt32.reduceToNat, Char.reduceVal] at halnum
    omega
  · rintro rfl
    revert halnum
    decide

/-- The words of a plain name stand between the underscores of its small form. -/
theorem pascalCase_of_snakeCase {name small : String} (hname : IsPlainName name)
    (h : snakeCase name = .ok small) : pascalCase small = name := by
  rw [snakeCase_of_beginsWithCapital hname.begins] at h
  cases h
  have hwords := areWordsOf_wordsOf hname.begins
  have hplain : ∀ w ∈ wordsOf name.toList, IsPlain w := by
    refine isPlain_of_flatten ?_
    rw [hwords.flatten]
    exact isPlain_of_alphanumeric hname.alphanumeric
  rw [pascalCase_joinSmall (wordsOf_of_beginsWithCapital hname.begins).2 hwords.capital hplain,
    hwords.flatten, String.ofList_toList]

/-- A name is accepted exactly if it begins with a capital, and its small form joins the words into
which it falls. A plain name can be read off its small form, so that no other plain name has the
same one. -/
theorem snakeCase_exact (name : String) :
    (snakeCase name = .error (.notCapitalised name) ↔
        name = "" ∨ ∃ c ∈ name.toList.head?, isCapital c = false) ∧
      (BeginsWithCapital name.toList →
        ∃ words, snakeCase name = .ok (joinSmall words) ∧ AreWordsOf words name.toList) ∧
      (IsPlainName name → ∃ small, snakeCase name = .ok small ∧ pascalCase small = name ∧
        ∀ other, IsPlainName other → snakeCase other = .ok small → other = name) := by
  refine ⟨?_, fun h => ?_, fun h => ?_⟩
  · rw [← String.toList_eq_nil_iff, ← not_beginsWithCapital_iff]
    constructor
    · intro herror h
      rw [snakeCase_of_beginsWithCapital h] at herror
      cases herror
    · exact snakeCase_of_not_beginsWithCapital
  · exact ⟨wordsOf name.toList, snakeCase_of_beginsWithCapital h, areWordsOf_wordsOf h⟩
  · have hsmall := snakeCase_of_beginsWithCapital h.begins
    have hback := pascalCase_of_snakeCase h hsmall
    refine ⟨_, hsmall, hback, fun other hother hsame => ?_⟩
    exact (pascalCase_of_snakeCase hother hsame).symm.trans hback

namespace Venues

theorem isPlainName_venue : IsPlainName "Event2Venue" where
  begins := by decide
  alphanumeric := List.all_eq_true.mp (by decide)

theorem snakeCase_venue : snakeCase "Event2Venue" = .ok "event2_venue" := by decide

/-- The digit stays with its word, so that the name can be read off. -/
theorem snakeCase_exact_venue : IsPlainName "Event2Venue" ∧
    snakeCase "Event2Venue" = .ok "event2_venue" ∧ pascalCase "event2_venue" = "Event2Venue" := by
  obtain ⟨small, hsmall, hback, -⟩ := (snakeCase_exact "Event2Venue").2.2 isPlainName_venue
  obtain rfl : "event2_venue" = small := Except.ok.inj (snakeCase_venue.symm.trans hsmall)
  exact ⟨isPlainName_venue, hsmall, hback⟩

end Venues

end RoleSchema
