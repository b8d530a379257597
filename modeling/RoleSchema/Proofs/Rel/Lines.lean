import RoleSchema.Proofs.Result
import RoleSchema.Proofs.Text.Lines
import RoleSchema.Rel.Text

/-!
# Clauses on one line

A clause is single-lined if the names, the arguments and the message in it are on one line. What is
written between them is on one line as well, and so is the clause. A clause that is written begins
as a constraint or as an error, so that its line is no empty one and no header.

* `Clause.isLine`: the line of a clause.
* `isSection_of_sectionLines`: the lines of a section.
-/

namespace RoleSchema.Rel

/-! ## Single-lined clauses -/

/-- The name of a relation is on one line. -/
def Relation.SingleLined : Relation → Prop
  | .type name => OneLine name
  | .predicate p => OneLine p.name
  | .misplaced _ => True

mutual

/-- The names and the arguments in a formula are on one line. -/
def Formula.SingleLined : Formula → Prop
  | .atom relation args => relation.SingleLined ∧ ∀ a ∈ args, OneLine a
  | .conj conjuncts => Formula.AllSingleLined conjuncts
  | .implies antecedent consequent => antecedent.SingleLined ∧ consequent.SingleLined
  | .function relation => relation.SingleLined
  | .misplaced _ => True

/-- The names and the arguments in all formulas of a list are on one line. -/
def Formula.AllSingleLined : List Formula → Prop
  | [] => True
  | f :: fs => f.SingleLined ∧ Formula.AllSingleLined fs

end

/-- The names, the variables and the message in a clause are on one line. -/
def Clause.SingleLined : Clause → Prop
  | .constraint name vars body => OneLine name ∧ (∀ v ∈ vars, OneLine v) ∧ body.SingleLined
  | .unsupported message => OneLine message
  | .misplaced _ => True

theorem allSingleLined_iff {fs : List Formula} :
    Formula.AllSingleLined fs ↔ ∀ f ∈ fs, f.SingleLined := by
  induction fs with
  | nil => simp [Formula.AllSingleLined]
  | cons f fs ih => simp [Formula.AllSingleLined, ih]

/-! ## Texts -/

theorem Relation.oneLine_text {r : Relation} {t : String} (h : r.text = .ok t)
    (hr : r.SingleLined) : OneLine t := by
  cases r with
  | type name =>
    cases h
    exact hr
  | predicate p =>
    cases h
    exact hr
  | misplaced sort => cases h

theorem oneLine_argumentsText {args : List String} {t : String} (h : argumentsText args = .ok t)
    (ha : ∀ a ∈ args, OneLine a) : OneLine t := by
  unfold argumentsText at h
  split at h
  · cases h
  · cases h
    exact .intercalate (by decide) ha

mutual

/-- A single-lined formula is written on one line. -/
theorem Formula.oneLine_text (f : Formula) {t : String} (h : f.text = .ok t)
    (hf : f.SingleLined) : OneLine t := by
  match f with
  | .atom relation args =>
    rw [Formula.text] at h
    rw [Formula.SingleLined] at hf
    obtain ⟨name, hname, h⟩ := bind_eq_ok_iff.mp h
    obtain ⟨arguments, hargs, h⟩ := bind_eq_ok_iff.mp h
    cases h
    have hname := Relation.oneLine_text hname hf.1
    have hargs := oneLine_argumentsText hargs hf.2
    exact ((hname.append (by decide)).append hargs).append (by decide)
  | .conj conjuncts =>
    rw [Formula.text] at h
    rw [Formula.SingleLined] at hf
    obtain ⟨texts, ht, h⟩ := bind_eq_ok_iff.mp h
    cases h
    exact .intercalate (by decide) (Formula.oneLine_texts conjuncts ht hf)
  | .implies antecedent consequent =>
    rw [Formula.text] at h
    rw [Formula.SingleLined] at hf
    obtain ⟨a, ha, h⟩ := bind_eq_ok_iff.mp h
    obtain ⟨c, hc, h⟩ := bind_eq_ok_iff.mp h
    cases h
    have ha := Formula.oneLine_text antecedent ha hf.1
    have hc := Formula.oneLine_text consequent hc hf.2
    exact (ha.append (by decide)).append hc
  | .function relation =>
    rw [Formula.text] at h
    rw [Formula.SingleLined] at hf
    obtain ⟨name, hname, h⟩ := bind_eq_ok_iff.mp h
    cases h
    have hname := Relation.oneLine_text hname hf
    exact (OneLine.append (by decide) hname).append (by decide)
  | .misplaced sort =>
    rw [Formula.text] at h
    cases h

/-- Single-lined formulas are written on one line each. -/
theorem Formula.oneLine_texts (fs : List Formula) {ts : List String}
    (h : Formula.texts fs = .ok ts) (hfs : Formula.AllSingleLined fs) : ∀ t ∈ ts, OneLine t := by
  match fs with
  | [] =>
    rw [Formula.texts] at h
    cases h
    simp
  | f :: fs =>
    rw [Formula.texts] at h
    rw [Formula.AllSingleLined] at hfs
    obtain ⟨t, ht, h⟩ := bind_eq_ok_iff.mp h
    obtain ⟨rest, hrest, h⟩ := bind_eq_ok_iff.mp h
    cases h
    have ht := Formula.oneLine_text f ht hfs.1
    have hrest := Formula.oneLine_texts fs hrest hfs.2
    simpa using ⟨ht, hrest⟩

end

theorem oneLine_headText {name : String} {vars : List String} (hn : OneLine name)
    (hv : ∀ v ∈ vars, OneLine v) : OneLine (headText name vars) := by
  unfold headText
  split
  · exact hn
  · exact ((hn.append (by decide)).append (.intercalate (by decide) hv)).append (by decide)

/-! ## Lines of clauses -/

/-- The line begins as a constraint or as an error. -/
def BeginsAsClause (line : String) : Prop :=
  ∃ rest, line = "ic " ++ rest ∨ line = "// Error: " ++ rest

theorem BeginsAsClause.ne_empty {line : String} (h : BeginsAsClause line) : line ≠ "" := by
  rintro rfl
  obtain ⟨rest, h | h⟩ := h
  · have := congrArg String.toList h
    simp at this
  · have := congrArg String.toList h
    simp at this

/-- A single-lined clause is written on one line, which begins as that of a clause. -/
theorem Clause.isLine {c : Clause} {line : String} (h : c.text = .ok line)
    (hc : c.SingleLined) : OneLine line ∧ BeginsAsClause line := by
  cases c with
  | constraint name vars body =>
    obtain ⟨hname, hvars, hbody⟩ := hc
    obtain ⟨text, ht, h⟩ := bind_eq_ok_iff.mp h
    have hbody := Formula.oneLine_text body ht hbody
    have hhead : OneLine (headText name vars) := oneLine_headText hname hvars
    cases h
    constructor
    · have hopened : OneLine ("ic " ++ headText name vars ++ " \x7b ") :=
        (OneLine.append (by decide) hhead).append (by decide)
      exact (hopened.append hbody).append (by decide)
    · refine ⟨headText name vars ++ (" \x7b " ++ (text ++ " \x7d")), Or.inl ?_⟩
      simp only [String.append_assoc]
  | unsupported message =>
    cases h
    exact ⟨OneLine.append (by decide) hc, message, Or.inr rfl⟩
  | misplaced sort => cases h

/-! ## Lines of sections -/

/-- A block of lines is a header and a line for each clause, in order. -/
def IsSection (header : String) (clauses : List Clause) (block : List String) : Prop :=
  ∃ lines, block = headerLine header :: lines ∧
    List.Forall₂ (fun c line => c.text = .ok line ∧ BeginsAsClause line) clauses lines

theorem isSection_nil (header : String) : IsSection header [] [headerLine header] :=
  ⟨[], rfl, .nil⟩

theorem IsSection.ne_nil {header : String} {clauses : List Clause} {block : List String}
    (h : IsSection header clauses block) : block ≠ [] := by
  obtain ⟨lines, rfl, -⟩ := h
  simp

theorem oneLine_headerLine {header : String} (h : OneLine header) :
    OneLine (headerLine header) ∧ headerLine header ≠ "" := by
  refine ⟨OneLine.append (by decide) h, fun hempty => ?_⟩
  have hlist := congrArg String.toList hempty
  simp [headerLine] at hlist

/-- A section of single-lined clauses is such a block, and none of its lines is empty. -/
theorem isSection_of_sectionLines {header : String} {clauses : List Clause} {block : List String}
    (h : sectionLines header clauses = .ok block) (hh : OneLine header)
    (hw : ∀ c ∈ clauses, c.SingleLined) :
    IsSection header clauses block ∧ ∀ line ∈ block, OneLine line ∧ line ≠ "" := by
  obtain ⟨lines, hl, h⟩ := bind_eq_ok_iff.mp h
  cases h
  have hlines := (List.forall₂_and_left clauses lines).mpr ⟨hw, forall₂_of_mapM hl⟩
  constructor
  · refine ⟨lines, rfl, hlines.imp fun c line hc => ?_⟩
    exact ⟨hc.2, (Clause.isLine hc.2 hc.1).2⟩
  · rw [List.forall_mem_cons]
    refine ⟨oneLine_headerLine hh, fun line hline => ?_⟩
    obtain ⟨c, -, hsingle, ht⟩ := exists_of_mem_of_forall₂ hlines hline
    obtain ⟨honeLine, hbegins⟩ := Clause.isLine ht hsingle
    exact ⟨honeLine, hbegins.ne_empty⟩

end RoleSchema.Rel
