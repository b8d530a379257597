import RoleSchema.Proofs.Result
import RoleSchema.Text.Template

/-!
# What a checked template stands for

Checking a template looks for placeholders, which are whatever stands between an opening brace and
the next closing one; filling it reads doubled braces as single ones and refuses a brace that is
alone. The two agree on templates whose braces all belong to placeholders with the names of values.
A brace that is left is seen by filling only: a pair of them comes out as one, and any other one is
a fault.

* `substitute`: a text with values in place of the names between braces.
* `IsSlotted`: what checking the placeholders of a text ensures.
* `fillWithin_char` and the lemmas after it: how a template is filled from its first character on.
* `braces_fillWithin`: how many braces are lost.
* `map_fill_eq_iff`: which checked templates are filled by substitution, also where only something
  with the same number of braces is made of the outcome.
-/

namespace RoleSchema.Text

/-! ## Slots -/

/-- A name between braces. -/
def slot (name : String) : List Char := '{' :: (name.toList ++ ['}'])

/-- The names of values can stand in slots: they are letters, and at least one. -/
def ArePlain (values : List (String × String)) : Prop :=
  ∀ v ∈ values, v.1 ≠ "" ∧ ∀ c ∈ v.1.toList, c.isAlpha = true

/-- The text with values in place of the slots with their names, of which `skip` characters are
left out. -/
def substituteFrom (values : List (String × String)) : Nat → List Char → List Char
  | _, [] => []
  | skip + 1, _ :: rest => substituteFrom values skip rest
  | 0, c :: rest =>
    match values.find? fun v => (slot v.1).isPrefixOf (c :: rest) with
    | some v => v.2.toList ++ substituteFrom values (v.1.length + 1) rest
    | none => c :: substituteFrom values 0 rest

/-- The text with values in place of the slots with their names, everything else being as it was. -/
def substitute (values : List (String × String)) (cs : List Char) : List Char :=
  substituteFrom values 0 cs

/-- The text without its slots. -/
def unslotted (values : List (String × String)) (cs : List Char) : List Char :=
  substitute (values.map fun v => (v.1, "")) cs

/-- A brace. -/
def isBrace (c : Char) : Bool := c == '{' || c == '}'

theorem isBrace_opening : isBrace '{' = true := rfl

theorem isBrace_closing : isBrace '}' = true := rfl

/-- The texts in which nothing but given names stands between an opening brace and the next closing
one. -/
inductive IsSlotted (names : List String) : List Char → Prop
  | nil : IsSlotted names []
  | char {c : Char} {rest : List Char} (hc : c ≠ '{') (hrest : IsSlotted names rest) :
      IsSlotted names (c :: rest)
  | slot {name : String} {rest : List Char} (hname : name ∈ names)
      (hrest : IsSlotted names rest) : IsSlotted names (slot name ++ rest)
  | unnamed {rest : List Char} (hrest : IsSlotted names rest) :
      IsSlotted names ('{' :: '}' :: rest)
  | unclosed {rest : List Char} (hrest : '}' ∉ rest) : IsSlotted names ('{' :: rest)

/-! ## Placeholders -/

theorem placeholdersFrom_closed (empty : Bool) (inside : List Char) {name : List Char}
    (rest : List Char) (hname : '}' ∉ name) (hne : inside.reverse ++ name ≠ []) :
    placeholdersFrom empty (some inside) (name ++ '}' :: rest) =
      (inside.reverse ++ name) :: placeholdersFrom empty none rest := by
  induction name generalizing inside with
  | nil =>
    cases inside with
    | nil => exact absurd rfl hne
    | cons d ds => simp [placeholdersFrom]
  | cons c name ih =>
    obtain ⟨hc, hothers⟩ : '}' ≠ c ∧ '}' ∉ name := by simpa using hname
    have hrun := ih (c :: inside) hothers (by simp)
    cases inside with
    | nil => simpa [placeholdersFrom, hc.symm] using hrun
    | cons d ds => simpa [placeholdersFrom, hc.symm] using hrun

/-- A text without a closing brace has no slots. -/
theorem isSlotted_of_no_closing {names : List String} {cs : List Char} (h : '}' ∉ cs) :
    IsSlotted names cs := by
  induction cs with
  | nil => exact .nil
  | cons c rest ih =>
    have hrest : '}' ∉ rest := fun hmem => h (List.mem_cons_of_mem c hmem)
    by_cases hc : c = '{'
    · subst hc
      exact .unclosed hrest
    · exact .char hc (ih hrest)

/-- A text whose placeholders are all among the names is made of their slots and of text that opens
no placeholder. -/
theorem isSlotted_of_placeholders {names : List String} {empty : Bool} {cs : List Char}
    (h : ∀ p ∈ placeholdersFrom empty none cs, String.ofList p ∈ names) : IsSlotted names cs := by
  -- what follows a slot is any shorter text, not the tail
  induction hn : cs.length using Nat.strongRecOn generalizing cs with
  | ind n ih =>
    cases cs with
    | nil => exact .nil
    | cons c rest =>
      by_cases hc : c = '{'
      · subst hc
        by_cases hclosed : '}' ∈ rest
        · obtain ⟨name, after, rfl, hname⟩ := List.eq_append_cons_of_mem hclosed
          have hshort : after.length < n := by simp [← hn]; omega
          cases name with
          | nil =>
            refine .unnamed (ih _ hshort (fun p hp => h p ?_) rfl)
            cases empty <;> simp [placeholdersFrom, hp]
          | cons d ds =>
            have hopen : placeholdersFrom empty none ('{' :: (d :: ds ++ '}' :: after)) =
                (d :: ds) :: placeholdersFrom empty none after :=
              placeholdersFrom_closed empty [] after hname (by simp)
            rw [hopen] at h
            obtain ⟨hfirst, hothers⟩ := List.forall_mem_cons.mp h
            have hslot := IsSlotted.slot hfirst (ih _ hshort hothers rfl)
            simpa [slot] using hslot
        · exact .unclosed hclosed
      · refine .char hc (ih rest.length (by simp [← hn]) ?_ rfl)
        simpa [placeholdersFrom, hc] using h

/-! ## Substitution -/

section

variable {values : List (String × String)}

theorem substituteFrom_append (values : List (String × String)) (before rest : List Char) :
    substituteFrom values before.length (before ++ rest) = substitute values rest := by
  induction before with
  | nil => rfl
  | cons c before ih => exact ih

theorem substitute_of_none {c : Char} {rest : List Char}
    (h : values.find? (fun v => (slot v.1).isPrefixOf (c :: rest)) = none) :
    substitute values (c :: rest) = c :: substitute values rest := by
  rw [substitute, substituteFrom, h]
  rfl

theorem substitute_cons {c : Char} (rest : List Char) (hc : c ≠ '{') :
    substitute values (c :: rest) = c :: substitute values rest := by
  refine substitute_of_none (List.find?_eq_none.mpr fun v _ hprefix => hc ?_)
  rw [slot, List.isPrefixOf_cons_cons, Bool.and_eq_true, beq_iff_eq] at hprefix
  exact hprefix.1.symm

/-- Nothing is replaced after an opening brace that is not closed. -/
theorem substitute_unclosed {rest : List Char} (h : '}' ∉ rest) :
    substitute values ('{' :: rest) = '{' :: substitute values rest := by
  refine substitute_of_none (List.find?_eq_none.mpr fun v _ hprefix => h ?_)
  obtain ⟨after, hafter⟩ := List.isPrefixOf_iff_prefix.mp hprefix
  have hrest := (List.cons.inj hafter).2
  rw [← hrest]
  simp

theorem closing_notMem_of_plain (hplain : ArePlain values) {v : String × String} (hv : v ∈ values) :
    '}' ∉ v.1.toList := fun hmem =>
  absurd ((hplain v hv).2 '}' hmem) (by decide)

theorem takeWhile_of_closed {before : List Char} (after : List Char) (h : '}' ∉ before) :
    (before ++ '}' :: after).takeWhile (· != '}') = before := by
  rw [List.takeWhile_append_of_pos]
  · simp
  · intro c hc
    rw [bne_iff_ne]
    exact fun heq => h (heq ▸ hc)

/-- A text begins with the slot of one name only. -/
theorem eq_of_begins_with_slot {name other : String} {rest : List Char} (hname : '}' ∉ name.toList)
    (hother : '}' ∉ other.toList) (h : (slot other).isPrefixOf (slot name ++ rest) = true) :
    other = name := by
  obtain ⟨after, hafter⟩ := List.isPrefixOf_iff_prefix.mp h
  have hsame : other.toList ++ '}' :: after = name.toList ++ '}' :: rest := by
    simpa [slot] using hafter
  rw [← String.toList_inj, ← takeWhile_of_closed after hother, hsame,
    takeWhile_of_closed rest hname]

theorem substitute_unnamed (hplain : ArePlain values) (rest : List Char) :
    substitute values ('{' :: '}' :: rest) = '{' :: '}' :: substitute values rest := by
  rw [substitute_of_none, substitute_cons rest (by decide)]
  refine List.find?_eq_none.mpr fun v hv hprefix => (hplain v hv).1 ?_
  exact eq_of_begins_with_slot (by decide) (closing_notMem_of_plain hplain hv) hprefix

theorem substitute_slot (hplain : ArePlain values) {name value : String}
    (hvalue : values.lookup name = some value) (rest : List Char) :
    substitute values (slot name ++ rest) = value.toList ++ substitute values rest := by
  obtain ⟨before, after, rfl, hbefore⟩ := List.lookup_eq_some_iff.mp hvalue
  have hname := closing_notMem_of_plain hplain (v := (name, value)) (by simp)
  have hfind : (before ++ (name, value) :: after).find?
      (fun v => (slot v.1).isPrefixOf (slot name ++ rest)) = some (name, value) := by
    refine List.find?_eq_some_iff_append.mpr ⟨?_, before, after, rfl, fun v hv => ?_⟩
    · exact List.isPrefixOf_iff_prefix.mpr (List.prefix_append _ _)
    · rw [Bool.not_eq_true']
      refine Bool.eq_false_iff.mpr fun hprefix => ?_
      have hv' := closing_notMem_of_plain hplain (v := v) (by simp [hv])
      have hne := hbefore v hv
      rw [eq_of_begins_with_slot hname hv' hprefix] at hne
      simp at hne
  have hlength : (name.toList ++ ['}']).length = name.length + 1 := by
    simp [String.length_toList]
  have hskip := substituteFrom_append (before ++ (name, value) :: after) (name.toList ++ ['}']) rest
  rw [hlength] at hskip
  rw [slot, List.cons_append] at hfind ⊢
  rw [substitute, substituteFrom, hfind]
  exact congrArg (value.toList ++ ·) hskip

end

/-! ## Templates -/

namespace Template

variable {ε : Type} {value : Field → Except ε (List Char)} {wrong : TemplateFault → ε}

theorem fill_after_char (t : Template) (c : Char) :
    (t.after (.char c)).fill value wrong = (t.fill value wrong).map (c :: ·) := by
  simp only [fill, after, fillPieces]
  cases fillPieces value t.pieces with
  | error e => rfl
  | ok text => cases t.fault <;> rfl

theorem fill_after_field (t : Template) {f : Field} {text : List Char} (h : value f = .ok text) :
    (t.after (.field f)).fill value wrong = (t.fill value wrong).map (text ++ ·) := by
  simp only [fill, after, fillPieces, h]
  cases fillPieces value t.pieces with
  | error e => rfl
  | ok text => cases t.fault <;> rfl

theorem fill_after_field_error (t : Template) {f : Field} {e : ε} (h : value f = .error e) :
    (t.after (.field f)).fill value wrong = .error e := by
  simp only [fill, after, fillPieces, h]
  rfl

end Template

namespace Field

theorem readFormat_unclosed (depth : Nat) {cs : List Char} (h : '}' ∉ cs) :
    ∃ fault, readFormat depth cs = .error fault := by
  induction cs generalizing depth with
  | nil => exact ⟨_, rfl⟩
  | cons c rest ih =>
    obtain ⟨hc, hrest⟩ : '}' ≠ c ∧ '}' ∉ rest := by simpa using h
    obtain ⟨fault, hfault⟩ := ih (if c = '{' then depth + 1 else depth) hrest
    refine ⟨fault, ?_⟩
    simp only [readFormat, hc.symm, decide_false, Bool.false_and, Bool.false_eq_true, if_false,
      hfault]
    rfl

theorem readConversion_unclosed {cs : List Char} (h : '}' ∉ cs) :
    ∃ fault, readConversion cs = .error fault := by
  unfold readConversion
  split
  · exact ⟨_, rfl⟩
  · exact ⟨_, rfl⟩
  · simp at h
  · next c rest =>
    have hrest : '}' ∉ rest := fun hmem =>
      h (List.mem_cons_of_mem c (List.mem_cons_of_mem ':' hmem))
    obtain ⟨fault, hfault⟩ := readFormat_unclosed 0 hrest
    exact ⟨fault, by rw [hfault]; rfl⟩
  · exact ⟨_, rfl⟩

/-- A field that is not closed cannot be read. -/
theorem read_unclosed (indexed : Bool) {cs : List Char} (h : '}' ∉ cs) :
    ∃ fault, read indexed cs = .error fault := by
  induction cs generalizing indexed with
  | nil => exact ⟨_, rfl⟩
  | cons c rest ih =>
    obtain ⟨hc, hrest⟩ : '}' ≠ c ∧ '}' ∉ rest := by simpa using h
    unfold read
    split_ifs
    · obtain ⟨fault, hfault⟩ := ih (c != ']') hrest
      exact ⟨fault, by rw [hfault]; rfl⟩
    · exact absurd ‹_› hc.symm
    · exact ⟨_, rfl⟩
    · obtain ⟨fault, hfault⟩ := readFormat_unclosed 0 hrest
      exact ⟨fault, by rw [hfault]; rfl⟩
    · exact readConversion_unclosed hrest
    · obtain ⟨fault, hfault⟩ := ih (c == '[') hrest
      exact ⟨fault, by rw [hfault]; rfl⟩

/-- Letters before a closing brace are the name of a field. -/
theorem read_letters {name : List Char} (h : ∀ c ∈ name, c.isAlpha = true) (rest : List Char) :
    read false (name ++ '}' :: rest) = .ok ({ name := name }, rest) := by
  induction name with
  | nil => rfl
  | cons c name ih =>
    obtain ⟨hc, hothers⟩ := List.forall_mem_cons.mp h
    have hne : c ≠ '}' ∧ c ≠ '{' ∧ c ≠ ':' ∧ c ≠ '!' ∧ c ≠ '[' := by
      refine ⟨?_, ?_, ?_, ?_, ?_⟩ <;> (rintro rfl; revert hc; decide)
    obtain ⟨hclose, hopen, hformat, hconversion, hindex⟩ := hne
    simp only [List.cons_append, read, Bool.false_eq_true, if_false, hclose, hopen, hformat,
      hconversion, beq_eq_false_iff_ne.mpr hindex, ih hothers]
    rfl

end Field

/-! ## Slotted texts as templates -/

theorem IsSlotted.tail {names : List String} {c : Char} {rest : List Char}
    (h : IsSlotted names (c :: rest)) (hc : c ≠ '{') : IsSlotted names rest := by
  generalize hcs : c :: rest = cs at h
  cases h with
  | nil => cases hcs
  | char _ hrest => exact (List.cons.inj hcs).2 ▸ hrest
  | slot => exact absurd (List.cons.inj hcs).1 hc
  | unnamed => exact absurd (List.cons.inj hcs).1 hc
  | unclosed => exact absurd (List.cons.inj hcs).1 hc

/-- What a text stands for, if `n` characters of it are read. -/
def fillWithin (values : List (String × String)) (n : Nat) (cs : List Char) :
    Except TemplateFault (List Char) :=
  (Template.readWithin n cs).fill (valueOf values) id

section

variable {values : List (String × String)} {n : Nat} {rest : List Char}

theorem fillWithin_char {c : Char} (hopen : c ≠ '{') (hclose : c ≠ '}') :
    fillWithin values (n + 1) (c :: rest) = (fillWithin values n rest).map (c :: ·) := by
  simp only [fillWithin, Template.readWithin, hopen, hclose, if_false]
  exact Template.fill_after_char _ c

theorem fillWithin_openings :
    fillWithin values (n + 1) ('{' :: '{' :: rest) = (fillWithin values n rest).map ('{' :: ·) :=
  Template.fill_after_char _ '{'

theorem fillWithin_closings :
    fillWithin values (n + 1) ('}' :: '}' :: rest) = (fillWithin values n rest).map ('}' :: ·) :=
  Template.fill_after_char _ '}'

theorem fillWithin_loneClosing (h : rest.head? ≠ some '}') :
    fillWithin values (n + 1) ('}' :: rest) = .error .loneClosing := by
  cases rest with
  | nil => rfl
  | cons c rest =>
    have hc : c ≠ '}' := by simpa using h
    have hread : Template.readWithin (n + 1) ('}' :: c :: rest) =
        { fault := some .loneClosing } := by
      simp [Template.readWithin, hc]
    rw [fillWithin, hread]
    rfl

theorem fillWithin_field_error {fault : TemplateFault} (hopen : rest.head? ≠ some '{')
    (hread : Field.read false rest = .error fault) :
    ∃ fault, fillWithin values (n + 1) ('{' :: rest) = .error fault := by
  unfold fillWithin Template.readWithin
  rw [if_pos rfl]
  split
  · exact ⟨_, rfl⟩
  · simp at hopen
  · rw [hread]
    exact ⟨_, rfl⟩

theorem fillWithin_field {f : Field} {after : List Char} {text : List Char}
    (hopen : rest.head? ≠ some '{') (hread : Field.read false rest = .ok (f, after))
    (hvalue : valueOf values f = .ok text) :
    fillWithin values (n + 1) ('{' :: rest) = (fillWithin values n after).map (text ++ ·) := by
  unfold fillWithin
  rw [Template.readWithin.eq_def (n + 1)]
  simp only [if_true]
  split
  · cases hread
  · simp at hopen
  · rw [hread]
    exact Template.fill_after_field _ hvalue

/-- An opening brace that is not closed has to be doubled. -/
theorem fillWithin_unclosed (hopen : rest.head? ≠ some '{') (h : '}' ∉ rest) :
    ∃ fault, fillWithin values (n + 1) ('{' :: rest) = .error fault :=
  have ⟨_, hread⟩ := Field.read_unclosed false h
  fillWithin_field_error hopen hread

theorem fillWithin_unnamed :
    fillWithin values (n + 1) ('{' :: '}' :: rest) = .error .unnamed :=
  Template.fill_after_field_error _ rfl

theorem fillWithin_slot (hplain : ArePlain values) {name value : String}
    (hvalue : values.lookup name = some value) :
    fillWithin values (n + 1) (slot name ++ rest) =
      (fillWithin values n rest).map (value.toList ++ ·) := by
  obtain ⟨before, after, hvalues, -⟩ := List.lookup_eq_some_iff.mp hvalue
  obtain ⟨hne, hletters⟩ := hplain (name, value) (by simp [hvalues])
  have hshape : slot name ++ rest = '{' :: (name.toList ++ '}' :: rest) := by simp [slot]
  rw [hshape]
  refine fillWithin_field ?_ (Field.read_letters hletters rest) ?_
  · cases hname : name.toList with
    | nil => exact absurd (String.toList_eq_nil_iff.mp hname) hne
    | cons c letters =>
      have hc := hletters c (by simp [hname])
      rintro heq
      obtain rfl : c = '{' := by simpa using heq
      exact absurd hc (by decide)
  · simp [valueOf, hne, hvalue]

end

/-! ## Braces that are left -/

section

variable {values : List (String × String)}

theorem ArePlain.emptied (h : ArePlain values) : ArePlain (values.map fun v => (v.1, "")) := by
  intro v hv
  obtain ⟨u, hu, rfl⟩ := List.mem_map.mp hv
  exact h u hu

theorem exists_lookup_of_mem {name : String} (h : name ∈ values.map Prod.fst) :
    ∃ value, values.lookup name = some value := by
  obtain ⟨v, hv, rfl⟩ := List.mem_map.mp h
  refine Option.ne_none_iff_exists'.mp fun hnone => ?_
  simpa using List.lookup_eq_none_iff.mp hnone v hv

theorem unslotted_slot (hplain : ArePlain values) {name : String}
    (hname : name ∈ values.map Prod.fst) (rest : List Char) :
    unslotted values (slot name ++ rest) = unslotted values rest := by
  have hmem : name ∈ (values.map fun v => (v.1, "")).map Prod.fst := by
    simpa [Function.comp_def] using hname
  obtain ⟨value, hvalue⟩ := exists_lookup_of_mem hmem
  obtain ⟨before, after, hsplit, -⟩ := List.lookup_eq_some_iff.mp hvalue
  have hempty : value = "" := by
    obtain ⟨v, -, heq⟩ := List.mem_map.mp (hsplit ▸ List.mem_append_cons_self)
    exact (congrArg Prod.snd heq).symm
  subst hempty
  exact substitute_slot hplain.emptied hvalue rest

/-- The braces of a text that belong to no slot. -/
def strayBraces (values : List (String × String)) (cs : List Char) : Nat :=
  (unslotted values cs).countP isBrace

theorem strayBraces_eq_zero_iff {cs : List Char} :
    strayBraces values cs = 0 ↔ ∀ c ∈ unslotted values cs, c ≠ '{' ∧ c ≠ '}' := by
  simp [strayBraces, List.countP_eq_zero, isBrace]

theorem strayBraces_cons {c : Char} {rest : List Char}
    (h : unslotted values (c :: rest) = c :: unslotted values rest) :
    strayBraces values (c :: rest) = strayBraces values rest + if isBrace c then 1 else 0 := by
  rw [strayBraces, h, List.countP_cons]
  rfl

end

/-- How many braces there are in a text. -/
def braces (cs : List Char) : Nat := cs.countP isBrace

theorem braces_cons_of_brace {c : Char} (h : isBrace c = true) (cs : List Char) :
    braces (c :: cs) = braces cs + 1 := List.countP_cons_of_pos h

theorem braces_cons_of_other {c : Char} (h : ¬ isBrace c = true) (cs : List Char) :
    braces (c :: cs) = braces cs := List.countP_cons_of_neg h

theorem braces_append (cs ds : List Char) : braces (cs ++ ds) = braces cs + braces ds :=
  List.countP_append

/-- Of each pair of stray braces that is filled one is lost; other stray braces cannot be filled at
all. -/
theorem braces_fillWithin {values : List (String × String)} (hplain : ArePlain values) {n : Nat}
    {cs r : List Char} (hn : cs.length ≤ n) (h : IsSlotted (values.map Prod.fst) cs)
    (hr : fillWithin values n cs = .ok r) :
    2 * braces r + strayBraces values cs = 2 * braces (substitute values cs) := by
  induction n generalizing cs r with
  | zero =>
    obtain rfl := List.length_eq_zero_iff.mp (Nat.le_zero.mp hn)
    cases hr
    rfl
  | succ n ih =>
    cases h with
    | nil =>
      cases hr
      rfl
    | @char c rest hc hrest =>
      rw [strayBraces_cons (substitute_cons rest hc), substitute_cons rest hc]
      by_cases hclose : c = '}'
      · subst hclose
        by_cases hdoubled : rest.head? = some '}'
        · obtain ⟨rest, rfl⟩ := List.head?_eq_some_iff.mp hdoubled
          rw [fillWithin_closings] at hr
          obtain ⟨text, htext, rfl⟩ := map_eq_ok_iff.mp hr
          have hshorter := ih (by simp at hn; omega) (hrest.tail (by decide)) htext
          rw [strayBraces_cons (substitute_cons rest hc), substitute_cons rest hc]
          simp only [braces_cons_of_brace isBrace_closing, isBrace_closing, if_true]
          omega
        · rw [fillWithin_loneClosing hdoubled] at hr
          cases hr
      · rw [fillWithin_char hc hclose] at hr
        obtain ⟨text, htext, rfl⟩ := map_eq_ok_iff.mp hr
        have hshorter := ih (by simpa using hn) hrest htext
        have hbrace : ¬ isBrace c = true := by simp [isBrace, hc, hclose]
        rw [if_neg hbrace, braces_cons_of_other hbrace, braces_cons_of_other hbrace]
        omega
    | @slot name rest hname hrest =>
      obtain ⟨value, hvalue⟩ := exists_lookup_of_mem hname
      rw [fillWithin_slot hplain hvalue] at hr
      obtain ⟨text, htext, rfl⟩ := map_eq_ok_iff.mp hr
      have hshorter := ih (by simp [slot] at hn; omega) hrest htext
      rw [strayBraces, unslotted_slot hplain hname, ← strayBraces, substitute_slot hplain hvalue]
      simp only [braces, List.countP_append] at hshorter ⊢
      omega
    | unnamed hrest =>
      rw [fillWithin_unnamed] at hr
      cases hr
    | @unclosed rest hrest =>
      rw [strayBraces_cons (substitute_unclosed hrest), substitute_unclosed hrest]
      by_cases hdoubled : rest.head? = some '{'
      · obtain ⟨rest, rfl⟩ := List.head?_eq_some_iff.mp hdoubled
        have hothers : '}' ∉ rest := fun hmem => hrest (List.mem_cons_of_mem _ hmem)
        rw [fillWithin_openings] at hr
        obtain ⟨text, htext, rfl⟩ := map_eq_ok_iff.mp hr
        have hshorter := ih (by simp at hn; omega) (isSlotted_of_no_closing hothers) htext
        rw [strayBraces_cons (substitute_unclosed hothers), substitute_unclosed hothers]
        simp only [braces_cons_of_brace isBrace_opening, isBrace_opening, if_true]
        omega
      · obtain ⟨fault, hfault⟩ : ∃ fault, fillWithin values (n + 1) ('{' :: rest) = .error fault :=
          fillWithin_unclosed hdoubled hrest
        rw [hfault] at hr
        cases hr

/-- A text without stray braces is filled by substitution. -/
theorem fillWithin_eq_substitute {values : List (String × String)} (hplain : ArePlain values)
    {n : Nat} {cs : List Char} (hn : cs.length ≤ n) (h : IsSlotted (values.map Prod.fst) cs)
    (hstray : strayBraces values cs = 0) : fillWithin values n cs = .ok (substitute values cs) := by
  induction h generalizing n with
  | nil => cases n <;> rfl
  | @char c rest hc hrest ih =>
    cases n with
    | zero => simp at hn
    | succ n =>
      rw [strayBraces_cons (substitute_cons rest hc), Nat.add_eq_zero_iff] at hstray
      have hclose : c ≠ '}' := by
        rintro rfl
        exact absurd hstray.2 Nat.one_ne_zero
      rw [fillWithin_char hc hclose, ih (by simpa using hn) hstray.1, substitute_cons rest hc]
      rfl
  | @slot name rest hname hrest ih =>
    cases n with
    | zero => simp [slot] at hn
    | succ n =>
      obtain ⟨value, hvalue⟩ := exists_lookup_of_mem hname
      rw [strayBraces, unslotted_slot hplain hname] at hstray
      rw [fillWithin_slot hplain hvalue, ih (by simp [slot] at hn; omega) hstray,
        substitute_slot hplain hvalue]
      rfl
  | @unnamed rest hrest ih =>
    rw [strayBraces, unslotted, substitute_unnamed hplain.emptied,
      List.countP_cons_of_pos isBrace_opening] at hstray
    exact absurd hstray (Nat.succ_ne_zero _)
  | @unclosed rest hrest =>
    rw [strayBraces_cons (substitute_unclosed hrest)] at hstray
    exact absurd hstray (Nat.succ_ne_zero _)

/-- A slotted text is filled by substitution exactly if all its braces belong to slots, which can be
told from whatever the braces of the outcome can be counted in. -/
theorem map_fillChars_eq_iff {α : Type} {values : List (String × String)} (hplain : ArePlain values)
    {f : List Char → α} (hf : ∀ s t, f s = f t → braces s = braces t) {cs : List Char}
    (h : IsSlotted (values.map Prod.fst) cs) :
    (fillChars values cs).map f = .ok (f (substitute values cs)) ↔
      ∀ c ∈ unslotted values cs, c ≠ '{' ∧ c ≠ '}' := by
  rw [← strayBraces_eq_zero_iff, map_eq_ok_iff]
  constructor
  · rintro ⟨text, hfill, htext⟩
    have hlost := braces_fillWithin hplain (Nat.le_refl cs.length) h hfill
    have hsame := hf _ _ htext
    omega
  · exact fun hstray => ⟨_, fillWithin_eq_substitute hplain (Nat.le_refl cs.length) h hstray, rfl⟩

/-- **What a checked template stands for.** A template of which every placeholder has the name of a
value is filled by substitution exactly if all its braces belong to placeholders. This can be told
from whatever the braces of the outcome can be counted in. -/
theorem map_fill_eq_iff {α : Type} {values : List (String × String)} (hplain : ArePlain values)
    {f : String → α} (hf : ∀ s t, f s = f t → braces s.toList = braces t.toList) {empty : Bool}
    {template : String} (h : ∀ p ∈ placeholders empty template, p ∈ values.map Prod.fst) :
    (fill values template).map f =
        .ok (f (String.ofList (substitute values template.toList))) ↔
      ∀ c ∈ unslotted values template.toList, c ≠ '{' ∧ c ≠ '}' := by
  have hslotted : IsSlotted (values.map Prod.fst) template.toList :=
    isSlotted_of_placeholders fun p hp => h _ (List.mem_map_of_mem hp)
  have hf' : ∀ s t : List Char, f (String.ofList s) = f (String.ofList t) →
      braces s = braces t := fun s t hst => by simpa using hf _ _ hst
  rw [← map_fillChars_eq_iff hplain hf' hslotted, fill]
  cases fillChars values template.toList <;> rfl

/-- The outcome itself will do. -/
theorem fill_eq_substitute_iff {values : List (String × String)} (hplain : ArePlain values)
    {empty : Bool} {template : String}
    (h : ∀ p ∈ placeholders empty template, p ∈ values.map Prod.fst) :
    fill values template = .ok (String.ofList (substitute values template.toList)) ↔
      ∀ c ∈ unslotted values template.toList, c ≠ '{' ∧ c ≠ '}' := by
  rw [← map_fill_eq_iff hplain (f := id) (fun s t hst => congrArg (braces ·.toList) hst) h]
  cases fill values template <;> rfl

end RoleSchema.Text
