import RoleSchema.Proofs.Result
import RoleSchema.Proofs.Text.Lines
import RoleSchema.Rel.Text

/-!
# What the line of a clause tells

A clause is written without quotes and with few brackets. Nevertheless its line can be read in only
one way, if none of its words holds a mark: a space, a bracket, a comma or a brace. A word ends at
the first mark after it, and where a part of a clause can go on or end, different marks say which.
What the line does not tell is whether a relation is a type or a predicate, and whether an atom
stands alone or in a conjunction of one.

* `Readable`: what is written can be read off the text, in front of what may follow it.
* `Readable.intercalate`: parts between separators.
* `Clause.text_eq_iff_byName_eq`: two clauses of words have the same line exactly if they are the
  same by name.
-/

namespace RoleSchema.Rel

/-! ## Relations by name -/

/-- A relation is known by its name alone. -/
def Relation.byName : Relation → Relation
  | .predicate p => .type p.name
  | .type name => .type name
  | .misplaced sort => .misplaced sort

/-- A conjunction, one formula standing for itself. -/
def Formula.joined : List Formula → Formula
  | [f] => f
  | fs => .conj fs

mutual

/-- A formula with its relations by name and without conjunctions of one. -/
def Formula.byName : Formula → Formula
  | .atom relation args => .atom relation.byName args
  | .conj conjuncts => .joined (Formula.allByName conjuncts)
  | .implies antecedent consequent => .implies antecedent.byName consequent.byName
  | .function relation => .function relation.byName
  | .misplaced sort => .misplaced sort

/-- All formulas of a list, by name. -/
def Formula.allByName : List Formula → List Formula
  | [] => []
  | f :: fs => f.byName :: Formula.allByName fs

end

/-- A clause with its relations by name and without conjunctions of one. -/
def Clause.byName : Clause → Clause
  | .constraint name vars body => .constraint name vars body.byName
  | .unsupported message => .unsupported message
  | .misplaced sort => .misplaced sort

@[simp] theorem Relation.text_byName (r : Relation) : r.byName.text = r.text := by
  cases r <;> rfl

theorem Formula.text_joined (fs : List Formula) : (joined fs).text = (Formula.conj fs).text := by
  match fs with
  | [] | _ :: _ :: _ => rfl
  | [f] =>
    rw [joined, Formula.text, Formula.texts, Formula.texts]
    cases f.text with
    | error fault => rfl
    | ok t => simp [bind, Except.bind]

mutual

/-- What is written of a formula does not depend on more than its names. -/
theorem Formula.text_byName (f : Formula) : f.byName.text = f.text := by
  match f with
  | .atom relation args => simp only [Formula.byName, Formula.text, Relation.text_byName]
  | .conj conjuncts =>
    rw [Formula.byName, text_joined, Formula.text, Formula.text, Formula.texts_allByName conjuncts]
  | .implies antecedent consequent =>
    simp only [Formula.byName, Formula.text, Formula.text_byName antecedent,
      Formula.text_byName consequent]
  | .function relation => simp only [Formula.byName, Formula.text, Relation.text_byName]
  | .misplaced sort => rfl

theorem Formula.texts_allByName (fs : List Formula) :
    Formula.texts (Formula.allByName fs) = Formula.texts fs := by
  match fs with
  | [] => rfl
  | f :: fs =>
    simp only [Formula.allByName, Formula.texts, Formula.text_byName f, Formula.texts_allByName fs]

end

theorem Clause.text_byName (c : Clause) : c.byName.text = c.text := by
  cases c with
  | constraint name vars body => simp only [Clause.byName, Clause.text, Formula.text_byName]
  | unsupported message => rfl
  | misplaced sort => rfl

/-! ## Words -/

/-- The characters that end a word. -/
def isMark (c : Char) : Bool := " (),\x7b\x7d".toList.contains c

/-- A text without marks. -/
def IsWord (s : String) : Prop := ∀ c ∈ s.toList, isMark c = false

-- by the list, as there may be an instance for properties of all characters
instance (s : String) : Decidable (IsWord s) := List.decidableBAll _ s.toList

/-- A text that begins with a mark. -/
def BeginsWithMark (cs : List Char) : Prop := ∃ c ∈ cs.head?, isMark c = true

instance (cs : List Char) : Decidable (BeginsWithMark cs) :=
  Option.decidableExistsMem cs.head?

theorem BeginsWithMark.append {cs : List Char} (h : BeginsWithMark cs) (r : List Char) :
    BeginsWithMark (cs ++ r) := by
  obtain ⟨c, hc, hmark⟩ := h
  exact ⟨c, List.mem_head?_append_of_mem_head? hc, hmark⟩

/-- Of two texts that begin with what is written of members of `P`, and go on with what may follow,
it can be told what was written and what follows. -/
def Readable {α : Type} (P : α → Prop) (follows : List Char → Prop) (chars : α → List Char) :
    Prop :=
  ∀ ⦃a b : α⦄ ⦃r s : List Char⦄, P a → P b → follows r → follows s →
    chars a ++ r = chars b ++ s → a = b ∧ r = s

theorem append_eq_append_of_mark {u v r s : List Char} (hu : ∀ c ∈ u, isMark c = false)
    (hv : ∀ c ∈ v, isMark c = false) (hr : BeginsWithMark r) (hs : BeginsWithMark s)
    (h : u ++ r = v ++ s) : u = v ∧ r = s := by
  induction u generalizing v with
  | nil =>
    cases v with
    | nil => exact ⟨rfl, h⟩
    | cons d v =>
      obtain ⟨c, hhead, hc⟩ := hr
      rw [List.nil_append] at h
      obtain rfl : d = c := by simpa [h] using hhead
      rw [hv d (List.mem_cons_self ..)] at hc
      cases hc
  | cons d u ih =>
    obtain ⟨hd, hu⟩ := List.forall_mem_cons.mp hu
    cases v with
    | nil =>
      obtain ⟨c, hhead, hc⟩ := hs
      rw [List.nil_append] at h
      obtain rfl : d = c := by simpa [← h] using hhead
      rw [hd] at hc
      cases hc
    | cons e v =>
      obtain ⟨rfl, htail⟩ := List.cons_eq_cons.mp h
      obtain ⟨rfl, rfl⟩ := ih hu (List.forall_mem_cons.mp hv).2 htail
      exact ⟨rfl, rfl⟩

/-- A word ends at the first mark. -/
theorem readable_word : Readable IsWord BeginsWithMark String.toList := by
  intro a b r s ha hb hr hs h
  obtain ⟨hab, rfl⟩ := append_eq_append_of_mark ha hb hr hs h
  exact ⟨String.toList_inj.mp hab, rfl⟩

namespace Readable

variable {α : Type} {P : α → Prop} {follows : List Char → Prop} {chars : α → List Char}
  {sep stop : List Char}

theorem follows_flatMap (hsep : ∀ r, follows (sep ++ r)) (hstop : ∀ r, follows (stop ++ r))
    (xs : List α) (r : List Char) :
    follows (xs.flatMap (fun x => sep ++ chars x) ++ (stop ++ r)) := by
  cases xs with
  | nil => exact hstop r
  | cons x xs =>
    rw [List.flatMap_cons, List.append_assoc, List.append_assoc]
    exact hsep _

/-- Parts that each come after a separator are told apart, if both a separator and the end may
follow a part and are not mistaken for each other. -/
theorem flatMap (h : Readable P follows chars) (hsep : ∀ r, follows (sep ++ r))
    (hstop : ∀ r, follows (stop ++ r)) (hne : ∀ r s, sep ++ r ≠ stop ++ s) :
    Readable (fun xs : List α => ∀ x ∈ xs, P x) (fun _ => True)
      (fun xs => xs.flatMap (fun x => sep ++ chars x) ++ stop) := by
  intro xs ys r s hx hy _ _ heq
  rw [List.append_assoc, List.append_assoc] at heq
  induction xs generalizing ys with
  | nil =>
    cases ys with
    | nil => exact ⟨rfl, List.append_cancel_left heq⟩
    | cons y ys =>
      rw [List.flatMap_cons, List.append_assoc, List.append_assoc] at heq
      exact absurd heq.symm (hne _ _)
  | cons x xs ih =>
    cases ys with
    | nil =>
      rw [List.flatMap_cons, List.append_assoc, List.append_assoc] at heq
      exact absurd heq (hne _ _)
    | cons y ys =>
      obtain ⟨hx, hxs⟩ := List.forall_mem_cons.mp hx
      obtain ⟨hy, hys⟩ := List.forall_mem_cons.mp hy
      simp only [List.flatMap_cons, List.append_assoc] at heq
      obtain ⟨rfl, hrest⟩ := h hx hy (follows_flatMap hsep hstop xs r)
        (follows_flatMap hsep hstop ys s) (List.append_cancel_left heq)
      obtain ⟨rfl, rfl⟩ := ih hxs hys hrest
      exact ⟨rfl, rfl⟩

/-- Parts between separators are told apart in the same way. -/
theorem intercalate (h : Readable P follows chars) (hsep : ∀ r, follows (sep ++ r))
    (hstop : ∀ r, follows (stop ++ r)) (hne : ∀ r s, sep ++ r ≠ stop ++ s) :
    Readable (fun xs : List α => xs ≠ [] ∧ ∀ x ∈ xs, P x) (fun _ => True)
      (fun xs => sep.intercalate (xs.map chars) ++ stop) := by
  rintro (_ | ⟨x, xs⟩) (_ | ⟨y, ys⟩) r s ⟨hx₀, hx⟩ ⟨hy₀, hy⟩ - - heq
  · exact absurd rfl hx₀
  · exact absurd rfl hx₀
  · exact absurd rfl hy₀
  · obtain ⟨hx, hxs⟩ := List.forall_mem_cons.mp hx
    obtain ⟨hy, hys⟩ := List.forall_mem_cons.mp hy
    simp only [List.map_cons, intercalate_cons_flatMap, List.flatMap_map, List.append_assoc] at heq
    obtain ⟨rfl, hrest⟩ := h hx hy (follows_flatMap hsep hstop xs r)
      (follows_flatMap hsep hstop ys s) heq
    rw [← List.append_assoc, ← List.append_assoc] at hrest
    obtain ⟨hlist, rfl⟩ := h.flatMap hsep hstop hne hxs hys trivial trivial hrest
    exact ⟨congrArg (x :: ·) hlist, rfl⟩

end Readable

/-! ## Clauses of words -/

/-- The relation has a name, which is a word. -/
def Relation.OfWords (r : Relation) : Prop := ∃ name, r.text = .ok name ∧ IsWord name

/-- An atom of words with an argument at least. -/
inductive Formula.IsWordAtom : Formula → Prop
  | atom {r : Relation} {args : List String} (hr : r.OfWords) (hne : args ≠ [])
      (hargs : ∀ a ∈ args, IsWord a) : IsWordAtom (.atom r args)

/-- The body of a constraint: that a relation is a function, or an implication from an atom to an
atom or to a conjunction of atoms. -/
inductive Formula.IsWordBody : Formula → Prop
  | function {r : Relation} (hr : r.OfWords) : IsWordBody (.function r)
  | atom {a c : Formula} (ha : a.IsWordAtom) (hc : c.IsWordAtom) : IsWordBody (.implies a c)
  | conj {a : Formula} {cs : List Formula} (ha : a.IsWordAtom) (hne : cs ≠ [])
      (hcs : ∀ c ∈ cs, c.IsWordAtom) : IsWordBody (.implies a (.conj cs))

/-- A constraint of words, or a message. -/
inductive Clause.OfWords : Clause → Prop
  | constraint {name : String} {vars : List String} {body : Formula} (hname : IsWord name)
      (hvars : ∀ v ∈ vars, IsWord v) (hbody : body.IsWordBody) :
      OfWords (.constraint name vars body)
  | unsupported (message : String) : OfWords (.unsupported message)

/-! ## Parts -/

/-- The name of a relation and the arguments to which it is applied. -/
abbrev Application := String × List String

/-- A name applied to arguments, all of them words. -/
def Application.OfWords (a : Application) : Prop :=
  IsWord a.1 ∧ a.2 ≠ [] ∧ ∀ x ∈ a.2, IsWord x

/-- Words between commas, with a closing bracket. -/
def closedChars (words : List String) : List Char :=
  ", ".toList.intercalate (words.map String.toList) ++ ")".toList

/-- What is written of an application. -/
def Application.chars (a : Application) : List Char := a.1.toList ++ ("(".toList ++ closedChars a.2)

/-- The atom of an application. -/
def Application.atom (a : Application) : Formula := .atom (.type a.1) a.2

/-- What is written of applications that are implied, up to the end of the body. -/
def impliedChars (cs : List Application) : List Char :=
  " and ".toList.intercalate (cs.map Application.chars) ++ " \x7d".toList

/-- What is written of a body: an application, which is that of `function` if nothing is implied. -/
def bodyChars : Application × List Application → List Char
  | (a, []) => a.chars ++ " \x7d".toList
  | (a, c :: cs) => a.chars ++ (" implies ".toList ++ impliedChars (c :: cs))

/-- The body of an application and those that it implies. -/
def bodyOf : Application × List Application → Formula
  | (a, []) => .function (.type (a.2.headD ""))
  | (a, c :: cs) => .implies a.atom (.joined ((c :: cs).map Application.atom))

/-- What is written of the head of a constraint. -/
def headChars : String × List String → List Char
  | (name, []) => name.toList ++ " \x7b ".toList
  | (name, v :: vars) => name.toList ++ ("(".toList ++ (closedChars (v :: vars) ++ " \x7b ".toList))

theorem readable_closed :
    Readable (fun words => words ≠ [] ∧ ∀ w ∈ words, IsWord w) (fun _ => True) closedChars :=
  readable_word.intercalate (BeginsWithMark.append (by decide)) (BeginsWithMark.append (by decide))
    (by simp)

theorem readable_application :
    Readable Application.OfWords (fun _ => True) Application.chars := by
  rintro ⟨name, args⟩ ⟨name', args'⟩ r s ⟨hname, hargs⟩ ⟨hname', hargs'⟩ - - h
  rw [Application.chars, Application.chars, List.append_assoc, List.append_assoc, List.append_assoc,
    List.append_assoc] at h
  obtain ⟨rfl, hrest⟩ := readable_word hname hname' (.append (by decide) _)
    (.append (by decide) _) h
  obtain ⟨rfl, rfl⟩ := readable_closed hargs hargs' trivial trivial (List.append_cancel_left hrest)
  exact ⟨rfl, rfl⟩

theorem readable_implied :
    Readable (fun cs => cs ≠ [] ∧ ∀ c ∈ cs, Application.OfWords c) (fun _ => True) impliedChars :=
  readable_application.intercalate (fun _ => trivial) (fun _ => trivial) (by simp)

/-- What comes after the first application of a body says whether it implies anything. -/
theorem readable_body : Readable (fun p => p.1.OfWords ∧ ∀ c ∈ p.2, Application.OfWords c)
    (fun _ => True) bodyChars := by
  rintro ⟨a, cs⟩ ⟨b, ds⟩ r s ⟨ha, hcs⟩ ⟨hb, hds⟩ - - h
  match cs, ds with
  | [], [] =>
    simp only [bodyChars, List.append_assoc] at h
    obtain ⟨rfl, hrest⟩ := readable_application ha hb trivial trivial h
    exact ⟨rfl, List.append_cancel_left hrest⟩
  | [], d :: ds =>
    simp only [bodyChars, List.append_assoc] at h
    obtain ⟨-, hrest⟩ := readable_application ha hb trivial trivial h
    simp at hrest
  | c :: cs, [] =>
    simp only [bodyChars, List.append_assoc] at h
    obtain ⟨-, hrest⟩ := readable_application ha hb trivial trivial h
    simp at hrest
  | c :: cs, d :: ds =>
    simp only [bodyChars, List.append_assoc] at h
    obtain ⟨rfl, hrest⟩ := readable_application ha hb trivial trivial h
    obtain ⟨hlist, rfl⟩ := readable_implied ⟨List.cons_ne_nil c cs, hcs⟩
      ⟨List.cons_ne_nil d ds, hds⟩ trivial trivial (List.append_cancel_left hrest)
    exact ⟨congrArg (Prod.mk a) hlist, rfl⟩

/-- What comes after the name of a constraint says whether it has variables. -/
theorem readable_head : Readable (fun h => IsWord h.1 ∧ ∀ v ∈ h.2, IsWord v) (fun _ => True)
    headChars := by
  rintro ⟨name, vars⟩ ⟨name', vars'⟩ r s ⟨hname, hvars⟩ ⟨hname', hvars'⟩ - - h
  match vars, vars' with
  | [], [] =>
    simp only [headChars, List.append_assoc] at h
    obtain ⟨rfl, hrest⟩ := readable_word hname hname' (.append (by decide) _)
      (.append (by decide) _) h
    exact ⟨rfl, List.append_cancel_left hrest⟩
  | [], v' :: vars' =>
    simp only [headChars, List.append_assoc] at h
    obtain ⟨-, hrest⟩ := readable_word hname hname' (.append (by decide) _)
      (.append (by decide) _) h
    simp at hrest
  | v :: vars, [] =>
    simp only [headChars, List.append_assoc] at h
    obtain ⟨-, hrest⟩ := readable_word hname hname' (.append (by decide) _)
      (.append (by decide) _) h
    simp at hrest
  | v :: vars, v' :: vars' =>
    simp only [headChars, List.append_assoc] at h
    obtain ⟨rfl, hrest⟩ := readable_word hname hname' (.append (by decide) _)
      (.append (by decide) _) h
    obtain ⟨hlist, hrest⟩ := readable_closed ⟨List.cons_ne_nil v vars, hvars⟩
      ⟨List.cons_ne_nil v' vars', hvars'⟩ trivial trivial (List.append_cancel_left hrest)
    exact ⟨congrArg (Prod.mk name) hlist, List.append_cancel_left hrest⟩

/-! ## Lines -/

theorem Relation.byName_of_text {r : Relation} {name : String} (h : r.text = .ok name) :
    r.byName = .type name := by
  cases r with
  | type n =>
    cases h
    rfl
  | predicate p =>
    cases h
    rfl
  | misplaced sort => cases h

theorem Formula.IsWordAtom.parts {f : Formula} (h : f.IsWordAtom) :
    ∃ a : Application, a.OfWords ∧ f.byName = a.atom ∧
      ∃ t, f.text = .ok t ∧ t.toList = a.chars := by
  obtain @⟨r, args, ⟨name, hr, hname⟩, hne, hargs⟩ := h
  refine ⟨(name, args), ⟨hname, hne, hargs⟩, ?_,
    name ++ "(" ++ ", ".intercalate args ++ ")", ?_, ?_⟩
  · rw [Formula.byName, Relation.byName_of_text hr, Application.atom]
  · rw [Formula.text, hr, argumentsText, if_neg (by simpa using hne)]
    rfl
  · simp [Application.chars, closedChars]

theorem Formula.parts_of_atoms {fs : List Formula} (h : ∀ f ∈ fs, f.IsWordAtom) :
    ∃ as : List Application, (∀ a ∈ as, a.OfWords) ∧
      Formula.allByName fs = as.map Application.atom ∧
      ∃ ts, Formula.texts fs = .ok ts ∧ ts.map String.toList = as.map Application.chars := by
  induction fs with
  | nil => exact ⟨[], by simp, rfl, [], rfl, rfl⟩
  | cons f fs ih =>
    obtain ⟨hf, hfs⟩ := List.forall_mem_cons.mp h
    obtain ⟨a, ha, hname, t, ht, hchars⟩ := hf.parts
    obtain ⟨as, has, hnames, ts, hts, hlist⟩ := ih hfs
    refine ⟨a :: as, List.forall_mem_cons.mpr ⟨ha, has⟩, ?_, t :: ts, ?_, ?_⟩
    · rw [Formula.allByName, hname, hnames, List.map_cons]
    · rw [Formula.texts, ht, hts]
      rfl
    · rw [List.map_cons, List.map_cons, hchars, hlist]

theorem isWord_function : IsWord "function" := by decide

/-- The body of a constraint of words, read as applications. -/
theorem Formula.IsWordBody.parts {f : Formula} (h : f.IsWordBody) :
    ∃ p : Application × List Application, (p.1.OfWords ∧ ∀ c ∈ p.2, c.OfWords) ∧
      f.byName = bodyOf p ∧ ∃ t, f.text = .ok t ∧ t.toList ++ " \x7d".toList = bodyChars p := by
  cases h with
  | @function r hr =>
    obtain ⟨name, hr, hname⟩ := hr
    have hwords : Application.OfWords ("function", [name]) :=
      ⟨isWord_function, by simp, by simpa using hname⟩
    refine ⟨(("function", [name]), []), ⟨hwords, by simp⟩, ?_, "function(" ++ name ++ ")", ?_, ?_⟩
    · rw [Formula.byName, Relation.byName_of_text hr]
      rfl
    · rw [Formula.text, hr]
      rfl
    · simp [bodyChars, Application.chars, closedChars]
  | @atom a c ha hc =>
    obtain ⟨b, hb, hname, t, ht, hchars⟩ := ha.parts
    obtain ⟨d, hd, hname', t', ht', hchars'⟩ := hc.parts
    refine ⟨(b, [d]), ⟨hb, by simpa using hd⟩, ?_, t ++ " implies " ++ t', ?_, ?_⟩
    · rw [Formula.byName, hname, hname']
      rfl
    · rw [Formula.text, ht, ht']
      rfl
    · simp [bodyChars, impliedChars, hchars, hchars']
  | @conj a cs ha hne hcs =>
    obtain ⟨b, hb, hname, t, ht, hchars⟩ := ha.parts
    obtain ⟨ds, hds, hnames, ts, hts, hlist⟩ := Formula.parts_of_atoms hcs
    obtain ⟨d, ds, rfl⟩ : ∃ d ds', ds = d :: ds' := by
      obtain ⟨c, cs, rfl⟩ := List.exists_cons_of_ne_nil hne
      cases ds with
      | nil => cases hnames
      | cons d ds => exact ⟨d, ds, rfl⟩
    refine ⟨(b, d :: ds), ⟨hb, hds⟩, ?_, t ++ " implies " ++ " and ".intercalate ts, ?_, ?_⟩
    · rw [Formula.byName, hname, Formula.byName, hnames, bodyOf]
    · rw [Formula.text, ht, Formula.text, hts]
      rfl
    · simp [bodyChars, impliedChars, hchars, hlist]

theorem toList_headText (name : String) (vars : List String) :
    (headText name vars).toList ++ " \x7b ".toList = headChars (name, vars) := by
  cases vars with
  | nil => rfl
  | cons v vars => simp [headText, headChars, closedChars]

/-- The line of a constraint of words, read as its head and the applications of its body. -/
theorem Clause.parts_of_constraint (name : String) (vars : List String) {body : Formula}
    (hbody : body.IsWordBody) : ∃ p : Application × List Application,
      (p.1.OfWords ∧ ∀ c ∈ p.2, c.OfWords) ∧ body.byName = bodyOf p ∧
      ∃ line, (Clause.constraint name vars body).text = .ok line ∧
        line.toList = "ic ".toList ++ (headChars (name, vars) ++ (bodyChars p ++ [])) := by
  obtain ⟨p, hp, hname, t, ht, hchars⟩ := hbody.parts
  refine ⟨p, hp, hname, "ic " ++ headText name vars ++ " \x7b " ++ t ++ " \x7d", ?_, ?_⟩
  · rw [Clause.text, ht]
    rfl
  · rw [← toList_headText, ← hchars]
    simp

/-- A clause of words is written. -/
theorem Clause.OfWords.text_eq_ok {c : Clause} (h : c.OfWords) : ∃ line, c.text = .ok line := by
  cases h with
  | constraint hname hvars hbody =>
    obtain ⟨p, -, -, line, hline, -⟩ := parts_of_constraint _ _ hbody
    exact ⟨line, hline⟩
  | unsupported message => exact ⟨_, rfl⟩

/-- The first character of a line says whether it is that of a constraint or a message. -/
theorem Clause.text_constraint_ne {name message line : String} {vars : List String} {body : Formula}
    (hbody : body.IsWordBody) (h : (Clause.constraint name vars body).text = .ok line) :
    (Clause.unsupported message).text ≠ .ok line := by
  intro hmessage
  obtain ⟨p, -, -, line', hline, hchars⟩ := parts_of_constraint name vars hbody
  rw [h] at hline
  cases hline
  cases hmessage
  simp at hchars

/-- **A line tells its clause.** Two constraints of words or messages are written on the same line
exactly if they have the same message, or the same name, the same variables in the head and the
same body, relations being compared by their names and an atom being taken for a conjunction of
one. -/
theorem Clause.text_eq_iff_byName_eq {c d : Clause} (hc : c.OfWords) (hd : d.OfWords) :
    (∃ line, c.text = .ok line ∧ d.text = .ok line) ↔ c.byName = d.byName := by
  constructor
  · rintro ⟨line, hcline, hdline⟩
    cases hc with
    | unsupported message =>
      cases hd with
      | unsupported message' =>
        cases hcline
        have hmessage : message' = message := by
          simpa [Clause.text, String.ext_iff] using hdline
        rw [hmessage]
      | constraint hname' hvars' hbody' => exact absurd hcline (text_constraint_ne hbody' hdline)
    | constraint hname hvars hbody =>
      cases hd with
      | unsupported message' => exact absurd hdline (text_constraint_ne hbody hcline)
      | constraint hname' hvars' hbody' =>
        obtain ⟨p, hp, hpname, t, ht, htchars⟩ := parts_of_constraint _ _ hbody
        obtain ⟨q, hq, hqname, u, hu, huchars⟩ := parts_of_constraint _ _ hbody'
        obtain rfl : line = t := Except.ok.inj (hcline.symm.trans ht)
        obtain rfl : line = u := Except.ok.inj (hdline.symm.trans hu)
        obtain ⟨hhead, hrest⟩ := readable_head ⟨hname, hvars⟩ ⟨hname', hvars'⟩ trivial trivial
          (List.append_cancel_left (htchars.symm.trans huchars))
        obtain ⟨rfl, rfl⟩ := Prod.mk.inj hhead
        obtain ⟨rfl, -⟩ := readable_body hp hq trivial trivial hrest
        rw [Clause.byName, Clause.byName, hpname, hqname]
  · intro h
    obtain ⟨line, hline⟩ := hc.text_eq_ok
    refine ⟨line, hline, ?_⟩
    rw [← Clause.text_byName, ← h, Clause.text_byName, hline]

namespace Connectives

/-- The instances of a fact type are of an entity type, with the connectives as names. -/
def ofPredicate : Clause :=
  .constraint "function" ["implies"]
    (.implies (.atom (.predicate ⟨"and", "u", ["r", "s"], []⟩) ["implies", "_"])
      (.conj [.atom (.type "and") ["implies"]]))

/-- The same with the fact type taken for a type, and without a conjunction. -/
def ofType : Clause :=
  .constraint "function" ["implies"]
    (.implies (.atom (.type "and") ["implies", "_"]) (.atom (.type "and") ["implies"]))

theorem ofWords_ofPredicate : ofPredicate.OfWords := by
  have hname : IsWord "and" := by decide
  have hatom : Formula.IsWordAtom (.atom (.type "and") ["implies"]) :=
    .atom ⟨_, rfl, hname⟩ (by decide) (by decide)
  refine .constraint (by decide) (by decide) (.conj ?_ (List.cons_ne_nil _ _) ?_)
  · exact .atom ⟨_, rfl, hname⟩ (by decide) (by decide)
  · simpa using hatom

theorem ofWords_ofType : ofType.OfWords := by
  have hname : IsWord "and" := by decide
  refine .constraint (by decide) (by decide) (.atom ?_ ?_)
  · exact .atom ⟨_, rfl, hname⟩ (by decide) (by decide)
  · exact .atom ⟨_, rfl, hname⟩ (by decide) (by decide)

theorem written_alike : ofPredicate.OfWords ∧ ofType.OfWords ∧
    ∃ line, ofPredicate.text = .ok line ∧ ofType.text = .ok line :=
  ⟨ofWords_ofPredicate, ofWords_ofType,
    (Clause.text_eq_iff_byName_eq ofWords_ofPredicate ofWords_ofType).mpr rfl⟩

end Connectives

end RoleSchema.Rel
