import RoleSchema.Proofs.Relation.Account
import Mathlib.Data.List.Nodup
import Mathlib.Data.List.Infix
import Mathlib.Data.List.Pairwise
import Mathlib.Data.List.Perm.Basic

/-!
# The names of the constraints of a fact type

A constraint is named after its relation, with an ending that says what it is about, or, where it
comes of a mandatory constraint, after a type and the relation. If the relations have different
names, names with endings are never the same. A name with a type comes up again if two mandatory
constraints ask for the same type in the columns of a relation, as they may where a type plays two
roles. In no other way do two names meet, unless the name of a relation contains the words that
stand between the type and the relation.

* `infix_of_mandatory_eq_mandatory`, `infix_of_mandatory_eq_ending`: when names of different kinds
  meet.
* `Model.constraintNames_perm`: all names, by kind.
* `Model.constraintNames_nodup_iff`: when no two constraints have the same name.
* `Acquaintances.constraintNames_not_nodup`: people who know each other.
-/

namespace RoleSchema

open RoleSchema.Rel (Predicate Clause)

/-! ## Words in names -/

/-- What stands between a type and a relation, up to the last underscore. -/
def linkChars : List Char := "_mandatory_in".toList

/-- The words of the link. -/
def linkWords : List Char := "mandatory_in".toList

/-- The endings of the names that have no type. -/
def endings : List String := ["_many_one", "_subset", "_types"]

theorem linkChars_eq : linkChars = '_' :: linkWords := rfl

/-- No proper part of the link stands both at its beginning and at its end. -/
theorem eq_nil_of_border {w s : List Char} (hlink : linkChars = w ++ s) (hw : w ≠ [])
    (hs : s <+: linkChars) : s = [] := by
  have hborder : ∀ k < 14, 0 < k → linkChars.drop k <+: linkChars → linkChars.drop k = [] := by
    decide
  have hdrop : linkChars.drop w.length = s := by rw [hlink, List.drop_left]
  have hlength : w.length < 14 := by
    have hthirteen : linkChars.length = 13 := rfl
    rw [hlink, List.length_append] at hthirteen
    omega
  rw [← hdrop] at hs ⊢
  exact hborder w.length hlength (List.length_pos_of_ne_nil hw) hs

theorem getLast?_linkChars : linkChars.getLast? = some 'n' := by decide

/-- Where an ending goes on with an underscore, it has not come to the last letter of the link. -/
theorem getLast?_ne_of_ending {e : String} (he : e ∈ endings) {s p : List Char}
    (h : e.toList = s ++ '_' :: p) : s.getLast? ≠ some 'n' := by
  have hborder : ∀ e ∈ endings, ∀ k < e.toList.length, e.toList[k]? = some '_' →
      (e.toList.take k).getLast? ≠ some 'n' := by
    decide
  have hnext : e.toList[s.length]? = some '_' := by
    rw [h, List.getElem?_append_right le_rfl, Nat.sub_self, List.getElem?_cons_zero]
  have hlength : s.length < e.toList.length := by
    rw [h, List.length_append, List.length_cons]
    omega
  have hlast := hborder e he s.length hlength hnext
  rwa [h, List.take_left] at hlast

theorem linkWords_infix_linkChars : linkWords <:+: linkChars := ⟨['_'], [], rfl⟩

theorem linkWords_infix_of_cons {cs : List Char} (h : linkChars <:+: '_' :: cs) :
    linkWords <:+: cs := by
  rcases List.infix_cons_iff.mp h with h | h
  · rw [linkChars_eq] at h
    exact (List.cons_prefix_cons.mp h).2.isInfix
  · exact linkWords_infix_linkChars.trans h

theorem infix_of_link_shifted {w p q : List Char}
    (h : linkChars ++ '_' :: p = w ++ (linkChars ++ '_' :: q)) : p = q ∨ linkWords <:+: p := by
  by_cases hw : w = []
  · left
    rw [hw, List.nil_append] at h
    exact (List.cons_eq_cons.mp (List.append_cancel_left h)).2
  · right
    refine linkWords_infix_of_cons ?_
    rcases List.append_eq_append_iff.mp h with ⟨s, -, hrest⟩ | ⟨s, hlink, hrest⟩
    · exact ⟨s, '_' :: q, by rw [hrest, List.append_assoc]⟩
    · -- the part of the link after `w` is also its beginning
      have hs : s <+: linkChars := by
        refine List.prefix_of_prefix_length_le ⟨'_' :: p, hrest.symm⟩ ⟨'_' :: q, rfl⟩ ?_
        rw [hlink, List.length_append]
        omega
      rw [eq_nil_of_border hlink hw hs, List.nil_append] at hrest
      exact ⟨[], '_' :: q, by rw [← hrest, List.nil_append]⟩

/-- Two names with types meet only if one of their relations contains the words of the link. -/
theorem infix_of_mandatory_eq_mandatory {t t' p q : List Char}
    (h : t ++ (linkChars ++ '_' :: p) = t' ++ (linkChars ++ '_' :: q)) :
    p = q ∨ linkWords <:+: p ∨ linkWords <:+: q := by
  rcases List.append_eq_append_iff.mp h with ⟨w, -, hrest⟩ | ⟨w, -, hrest⟩
  · rcases infix_of_link_shifted hrest with hpq | hp
    · exact Or.inl hpq
    · exact Or.inr (Or.inl hp)
  · rcases infix_of_link_shifted hrest with hqp | hq
    · exact Or.inl hqp.symm
    · exact Or.inr (Or.inr hq)

/-- A name with a type meets one with an ending only if the relation of the latter contains the
words of the link. -/
theorem infix_of_mandatory_eq_ending {t p q : List Char} {e : String} (he : e ∈ endings)
    (h : t ++ (linkChars ++ '_' :: p) = q ++ e.toList) : linkWords <:+: q := by
  rw [← List.append_assoc] at h
  refine linkWords_infix_linkChars.trans ?_
  rcases List.append_eq_append_iff.mp h with ⟨s, rfl, -⟩ | ⟨s, hlink, hend⟩
  · exact ⟨t, s, rfl⟩
  · by_cases hs : s = []
    · rw [hs, List.append_nil] at hlink
      exact ⟨t, [], by rw [List.append_nil, hlink]⟩
    · -- the ending would have an underscore after the last letter of the link
      have hlast : s.getLast? = some 'n' := by
        rw [← List.getLast?_append_of_ne_nil q hs, ← hlink,
          List.getLast?_append_of_ne_nil t (by decide), getLast?_linkChars]
      exact absurd hlast (getLast?_ne_of_ending he hend)

theorem eq_of_ending {p q : List Char} {e e' : String} (he : e ∈ endings) (he' : e' ∈ endings)
    (h : p ++ e.toList = q ++ e'.toList) : p = q ∧ e = e' := by
  have hends : ∀ e ∈ endings, ∀ e' ∈ endings, e.toList.getLast? = e'.toList.getLast? → e = e' := by
    decide
  have hne : ∀ e ∈ endings, e.toList ≠ [] := by decide
  have hlast := congrArg List.getLast? h
  rw [List.getLast?_append_of_ne_nil _ (hne e he), List.getLast?_append_of_ne_nil _ (hne e' he')]
    at hlast
  obtain rfl := hends e he e' he' hlast
  exact ⟨List.append_cancel_right h, rfl⟩

/-! ## The names of the clauses -/

/-- The name of a constraint. -/
def Rel.Clause.name? : Clause → Option String
  | .constraint name _ _ => some name
  | .unsupported _ | .misplaced _ => none

/-- The names of all constraints. -/
def Rel.constraintNames (clauses : List Clause) : List String := clauses.filterMap Clause.name?

open RoleSchema.Rel (constraintNames)

theorem constraintNames_append (clauses clauses' : List Clause) :
    constraintNames (clauses ++ clauses') = constraintNames clauses ++ constraintNames clauses' :=
  List.filterMap_append

theorem constraintNames_flatMap {α : Type} (xs : List α) (clauses : α → List Clause) :
    constraintNames (xs.flatMap clauses) = xs.flatMap fun x => constraintNames (clauses x) :=
  List.filterMap_flatMap

theorem constraintNames_missingClauses (p : Predicate) (ids : List Id) :
    constraintNames (ids.map fun _ => p.missingClause) = [] := by
  simp [constraintNames, Predicate.missingClause, Rel.Clause.name?]

namespace Model

variable (m : Model) (f : FactType)

/-- The types, in small letters, that the mandatory constraints ask for in the columns of a
relation: each constraint that covers a column asks for the type of the first. -/
def requiredTypes (p : Predicate) : List String :=
  (m.mandatoryConstraintsOf f).filterMap fun c =>
    (p.firstOccurrence c.roleIds).map fun role => Text.lower (m.roleType role)

/-- The names with a type. -/
def requiredNames (p : Predicate) : List String :=
  (m.requiredTypes f p).map fun type => type ++ "_mandatory_in_" ++ p.name

/-- The ending of the name of the clause about a relation as a whole. -/
def wholeEnding (p : Predicate) : String :=
  match m.matchReferenceMode f with
  | .ok none => if m.isUnary p then "_subset" else "_many_one"
  | _ => "_many_one"

/-- The endings of the names of the clauses about a relation. -/
def endingsOf (p : Predicate) : List String :=
  m.wholeEnding f p :: if m.isUnary p then [] else ["_types"]

/-- The names with an ending. -/
def endedNames (p : Predicate) : List String := (m.endingsOf f p).map fun e => p.name ++ e

/-- A name with a type is a name with an ending, or one with a type for another relation. -/
def NamesMeet (relations : List Predicate) : Prop :=
  ∃ p ∈ relations, ∃ name ∈ m.requiredNames f p, ∃ q ∈ relations,
    name ∈ m.endedNames f q ∨ q ≠ p ∧ name ∈ m.requiredNames f q

variable {m f} {p q : Predicate}

theorem endingsOf_subset : m.endingsOf f p ⊆ endings := by
  intro e he
  rcases List.mem_cons.mp he with rfl | he
  · unfold wholeEnding
    split
    · split <;> decide
    · decide
  · split at he
    · cases he
    · rw [List.mem_singleton.mp he]
      decide

theorem nodup_endingsOf : (m.endingsOf f p).Nodup := by
  have htypes : m.wholeEnding f p ≠ "_types" := by
    unfold wholeEnding
    split
    · split <;> decide
    · decide
  unfold endingsOf
  split
  · exact List.nodup_singleton _
  · simpa using htypes

theorem constraintNames_wholeClausesOf (hp : m.Gives f p) (hdiffer : f.uniquenessIds.Nodup) :
    constraintNames (m.wholeClausesOf f p) =
      [p.name ++ if m.isUnary p then "_subset" else "_many_one"] := by
  have haccount := accountsFor_accountOf hp hdiffer
  cases hunary : m.isUnary p with
  | true =>
    obtain ⟨key, -, hwhole, -⟩ := haccount.set hunary
    have hwhole : m.wholeClausesOf f p = [m.containmentIn p key] := hwhole
    rw [hwhole]
    rfl
  | false =>
    obtain ⟨before, after, -, -, -, hwhole, -⟩ := haccount.function hunary
    have hwhole : m.wholeClausesOf f p = before.map (fun _ => p.missingClause) ++
      p.functionClause :: after.map (fun _ => p.missingClause) := hwhole
    rw [hwhole, constraintNames_append, constraintNames_missingClauses, List.nil_append]
    exact congrArg (List.cons _) (constraintNames_missingClauses p after)

theorem name?_mandatoryClause (c : MandatoryConstraint) :
    (m.mandatoryClause c p).bind Rel.Clause.name? = ((p.firstOccurrence c.roleIds).map
      fun role => Text.lower (m.roleType role)).map fun type =>
        type ++ "_mandatory_in_" ++ p.name := by
  unfold mandatoryClause
  cases p.firstOccurrence c.roleIds <;> rfl

theorem constraintNames_columnClausesOf : constraintNames (m.columnClausesOf f p) =
    (if m.isUnary p then [] else [p.name ++ "_types"]) ++ m.requiredNames f p := by
  have htypes : constraintNames (if m.isUnary p then [] else [m.typeClause p]) =
      if m.isUnary p then [] else [p.name ++ "_types"] := by
    split <;> rfl
  have hmandatory : constraintNames ((m.mandatoryConstraintsOf f).filterMap
      fun c => m.mandatoryClause c p) = m.requiredNames f p := by
    rw [constraintNames, List.filterMap_filterMap, requiredNames, requiredTypes,
      List.map_filterMap]
    simp only [name?_mandatoryClause]
  rw [columnClausesOf, constraintNames_append, htypes, hmandatory]

theorem constraintNames_whole {relations : List Predicate} {whole : List Clause}
    (hdiffer : f.uniquenessIds.Nodup)
    (h : (m.relationsAndClauses f).result = .ok (relations, whole)) :
    (constraintNames whole).Perm (relations.map fun p => p.name ++ m.wholeEnding f p) := by
  rcases relationsAndClauses_eq_ok h with ⟨r, rel, hm, hrel, rfl, rfl⟩ | ⟨hm, hr, rfl⟩
  · obtain ⟨identifier, forward, inverse, -, hforward, hinverse⟩ := relations_of_referenceMode hrel
    have hending (p : Predicate) : m.wholeEnding f p = "_many_one" := by
      simp only [wholeEnding, hm]
    simp only [List.map_cons, List.map_nil, hending, hforward, hinverse, manyOneClause,
      beq_self_eq_true, if_true]
    exact List.Perm.swap _ _ _
  · have hending (p : Predicate) :
        m.wholeEnding f p = if m.isUnary p then "_subset" else "_many_one" := by
      simp only [wholeEnding, hm]
    have hnames : constraintNames (relations.flatMap (m.wholeClausesOf f)) =
        relations.map fun p => p.name ++ m.wholeEnding f p := by
      rw [constraintNames_flatMap, List.map_eq_flatMap]
      refine List.flatMap_congr fun p hp => ?_
      rw [constraintNames_wholeClausesOf (gives_of_mem_relationsFor hr hp) hdiffer, hending]
    rw [hnames]

/-- The names of the constraints of a fact type, those with an ending first. -/
theorem constraintNames_perm {relations : List Predicate} {whole : List Clause}
    (hdiffer : f.uniquenessIds.Nodup)
    (h : (m.relationsAndClauses f).result = .ok (relations, whole)) :
    (constraintNames (whole ++ relations.flatMap (m.columnClausesOf f))).Perm
      (relations.flatMap (m.endedNames f) ++ relations.flatMap (m.requiredNames f)) := by
  have hended : m.endedNames f = fun p => (p.name ++ m.wholeEnding f p) ::
      if m.isUnary p then [] else [p.name ++ "_types"] := by
    funext p
    unfold endedNames endingsOf
    split <;> rfl
  have hcolumns := (List.flatMap_append_perm relations
    (fun p => if m.isUnary p then [] else [p.name ++ "_types"]) (m.requiredNames f)).symm
  have hwhole := constraintNames_whole hdiffer h
  rw [constraintNames_append, constraintNames_flatMap]
  simp only [constraintNames_columnClausesOf]
  refine (hwhole.append hcolumns).trans ?_
  rw [← List.append_assoc, hended]
  exact (List.map_append_flatMap_perm _ _ _).append_right _

/-! ## Names that come up again -/

theorem toList_requiredName (type name : String) : (type ++ "_mandatory_in_" ++ name).toList =
    type.toList ++ (linkChars ++ '_' :: name.toList) := by
  have hlink : "_mandatory_in_".toList = linkChars ++ ['_'] := rfl
  rw [String.toList_append, String.toList_append, hlink]
  simp

/-- Lists without repetitions are put together without repetitions exactly if those of different
elements have nothing in common. -/
theorem nodup_flatMap_iff {α β : Type} {xs : List α} {g : α → List β} (hxs : xs.Nodup) :
    (xs.flatMap g).Nodup ↔ (∀ x ∈ xs, (g x).Nodup) ∧
      ∀ x ∈ xs, ∀ y ∈ xs, y ≠ x → ∀ b ∈ g x, b ∉ g y := by
  rw [List.nodup_flatMap]
  refine and_congr_right fun _ => ⟨fun h x hx y hy hne b hbx hby => ?_, fun h => ?_⟩
  · have : Std.Symm (Function.onFun List.Disjoint g) := ⟨fun _ _ hd => List.disjoint_symm hd⟩
    exact h.forall hx hy hne.symm hbx hby
  · exact hxs.pairwise_of_forall_ne fun x hx y hy hne b hbx hby => h x hx y hy hne.symm b hbx hby

variable {relations : List Predicate}

/-- Names with an ending are different if those of the relations are. -/
theorem nodup_endedNames (hnames : (relations.map Predicate.name).Nodup) :
    (relations.flatMap (m.endedNames f)).Nodup := by
  refine (nodup_flatMap_iff hnames.of_map).mpr ⟨fun p _ => ?_, fun p hp q hq hne name hpn hqn => ?_⟩
  · refine List.Nodup.map_on (fun e he e' he' heq => ?_) nodup_endingsOf
    have heq := congrArg String.toList heq
    simp only [String.toList_append] at heq
    exact (eq_of_ending (endingsOf_subset he) (endingsOf_subset he') heq).2
  · obtain ⟨e, he, rfl⟩ := List.mem_map.mp hpn
    obtain ⟨e', he', heq⟩ := List.mem_map.mp hqn
    have heq := congrArg String.toList heq
    simp only [String.toList_append] at heq
    have hname := (eq_of_ending (endingsOf_subset he') (endingsOf_subset he) heq).1
    exact hne (List.inj_on_of_nodup_map hnames hq hp (String.toList_inj.mp hname))

theorem nodup_requiredNames (p : Predicate) :
    (m.requiredNames f p).Nodup ↔ (m.requiredTypes f p).Nodup := by
  refine List.nodup_map_iff fun t t' heq => ?_
  have heq := congrArg String.toList heq
  simp only [toList_requiredName] at heq
  exact String.toList_inj.mp (List.append_cancel_right heq)

/-- Names meet only if the name of a relation contains the words of the link. -/
theorem NamesMeet.exists_linkWords_infix (h : m.NamesMeet f relations)
    (hnames : (relations.map Predicate.name).Nodup) :
    ∃ p ∈ relations, linkWords <:+: p.name.toList := by
  obtain ⟨p, hp, name, hname, q, hq, hmeet⟩ := h
  obtain ⟨t, -, rfl⟩ := List.mem_map.mp hname
  rcases hmeet with hended | ⟨hne, hrequired⟩
  · obtain ⟨e, he, heq⟩ := List.mem_map.mp hended
    have heq := congrArg String.toList heq
    rw [toList_requiredName, String.toList_append] at heq
    exact ⟨q, hq, infix_of_mandatory_eq_ending (endingsOf_subset he) heq.symm⟩
  · obtain ⟨t', -, heq⟩ := List.mem_map.mp hrequired
    have heq := congrArg String.toList heq
    rw [toList_requiredName, toList_requiredName] at heq
    rcases infix_of_mandatory_eq_mandatory heq with hname | hq' | hp'
    · exact absurd (List.inj_on_of_nodup_map hnames hq hp (String.toList_inj.mp hname)) hne
    · exact ⟨q, hq, hq'⟩
    · exact ⟨p, hp, hp'⟩

/-- **When the names of the constraints differ.** If a fact type lists no uniqueness constraint
twice and its relations have different names, its constraints have different names exactly if on
each relation the mandatory constraints ask for types that differ in small letters, and no names of
different kinds or relations meet. They meet only if the name of a relation contains
`mandatory_in`. -/
theorem constraintNames_nodup_iff (hdiffer : f.uniquenessIds.Nodup) {whole clauses : List Clause}
    (h : (m.relationsAndClauses f).result = .ok (relations, whole))
    (hnames : (relations.map Predicate.name).Nodup)
    (hc : (m.factTypeClauses f).result = .ok clauses) :
    ((constraintNames clauses).Nodup ↔
      (∀ p ∈ relations, (m.requiredTypes f p).Nodup) ∧ ¬ m.NamesMeet f relations) ∧
    (m.NamesMeet f relations → ∃ p ∈ relations, "mandatory_in".toList <:+: p.name.toList) := by
  refine ⟨?_, fun hmeet => hmeet.exists_linkWords_infix hnames⟩
  obtain ⟨relations', whole', h', rfl⟩ := factTypeClauses_eq_ok_iff.mp hc
  obtain ⟨rfl, rfl⟩ : relations = relations' ∧ whole = whole' := by
    simpa using h.symm.trans h'
  rw [(constraintNames_perm hdiffer h).nodup_iff, List.nodup_append',
    and_iff_right (nodup_endedNames hnames), nodup_flatMap_iff hnames.of_map]
  simp only [nodup_requiredNames]
  constructor
  · rintro ⟨⟨htypes, hothers⟩, hended⟩
    refine ⟨htypes, ?_⟩
    rintro ⟨p, hp, name, hname, q, hq, hmeet | ⟨hne, hmeet⟩⟩
    · exact hended (List.mem_flatMap.mpr ⟨q, hq, hmeet⟩) (List.mem_flatMap.mpr ⟨p, hp, hname⟩)
    · exact hothers p hp q hq hne name hname hmeet
  · rintro ⟨htypes, hmeet⟩
    refine ⟨⟨htypes, fun p hp q hq hne name hname hother => ?_⟩, fun name hended hname => ?_⟩
    · exact hmeet ⟨p, hp, name, hname, q, hq, Or.inr ⟨hne, hother⟩⟩
    · obtain ⟨q, hq, hended⟩ := List.mem_flatMap.mp hended
      obtain ⟨p, hp, hname⟩ := List.mem_flatMap.mp hname
      exact hmeet ⟨p, hp, name, hname, q, hq, Or.inl hended⟩

end Model

/-! ## Acquaintances -/

namespace Acquaintances

/-- People know each other, and everyone does so in both roles. -/
def knows : FactType where
  id := some "knows"
  name := "PersonKnowsPerson"
  roles := [{ id := some "knower", factTypeId := some "knows", playerId := some "person" },
    { id := some "known", factTypeId := some "knows", playerId := some "person" }]
  uniquenessIds := [some "one acquaintance"]
  mandatoryIds := [some "all know", some "all are known"]

/-- People have met, with names of roles that are composed like those of constraints. -/
def met : FactType where
  id := some "met"
  name := "PersonMetStranger"
  roles :=
    [{ id := some "one", factTypeId := some "met", playerId := some "person",
        name := "meeting_types" },
      { id := some "other", factTypeId := some "met", playerId := some "stranger",
        name := "person_mandatory_in_meeting" }]
  uniquenessIds := [some "one meets once", some "other meets once"]
  mandatoryIds := [some "all meet"]

/-- Every person trusts a stranger. -/
def trusts : FactType where
  id := some "trusts"
  name := "PersonTrustsStranger"
  roles := [{ id := some "truster", factTypeId := some "trusts", playerId := some "person" },
    { id := some "trusted", factTypeId := some "trusts", playerId := some "stranger" }]
  uniquenessIds := [some "one stranger"]
  mandatoryIds := [some "all trust", some "all are trusted"]

def model : Model where
  objects := [{ id := some "person", name := "Person", kind := .entity },
    { id := some "stranger", name := "Stranger", kind := .entity }]
  factTypes := [knows, met, trusts]
  uniquenessConstraints :=
    [{ id := some "one acquaintance", roleIds := [some "knower", some "known"] },
      { id := some "one meets once", roleIds := [some "one"] },
      { id := some "other meets once", roleIds := [some "other"] },
      { id := some "one stranger", roleIds := [some "truster"] }]
  mandatoryConstraints := [{ id := some "all know", roleIds := [some "knower"] },
    { id := some "all are known", roleIds := [some "known"] },
    { id := some "all meet", roleIds := [some "one"] },
    { id := some "all trust", roleIds := [some "truster"] },
    { id := some "all are trusted", roleIds := [some "trusted"] }]

def acquaintance : Predicate :=
  ⟨"person_knows_person", some "one acquaintance", [some "knower", some "known"], []⟩

/-- The relation of the one who meets. -/
def meeting : Predicate :=
  ⟨"meeting_types", some "other meets once", [some "other"], [some "one"]⟩

/-- The relation of the other who is met. -/
def stranger : Predicate :=
  ⟨"person_mandatory_in_meeting", some "one meets once", [some "one"], [some "other"]⟩

/-- All ids in a fact type differ, its mandatory constraints span different roles and its relations
have different names; and yet a name of its constraints comes up again. -/
def NamesRecur (f : FactType) : Prop :=
  ∃ relations whole clauses, f.roleIds.Nodup ∧ f.uniquenessIds.Nodup ∧ f.mandatoryIds.Nodup ∧
    (model.mandatoryConstraintsOf f).Pairwise
      (fun c d => ∃ role, ¬ (role ∈ c.roleIds ↔ role ∈ d.roleIds)) ∧
    (model.relationsAndClauses f).result = .ok (relations, whole) ∧
    (relations.map Predicate.name).Nodup ∧
    (model.factTypeClauses f).result = .ok clauses ∧ ¬ (constraintNames clauses).Nodup

theorem namesRecur_knows : NamesRecur knows := by
  have hclauses : (model.factTypeClauses knows).result =
      .ok [acquaintance.functionClause, model.typeClause acquaintance,
        model.occurrenceIn acquaintance (some "knower"),
        model.occurrenceIn acquaintance (some "known")] := rfl
  have hspan : (model.mandatoryConstraintsOf knows).Pairwise
      (fun c d => ∃ role, ¬ (role ∈ c.roleIds ↔ role ∈ d.roleIds)) :=
    List.pairwise_pair.mpr ⟨some "knower", by decide⟩
  exact ⟨[acquaintance], _, _, by decide, by decide, by decide, hspan, rfl, by decide, hclauses,
    by decide +kernel⟩

theorem namesRecur_met : NamesRecur met := by
  have hclauses : (model.factTypeClauses met).result =
      .ok [meeting.missingClause, meeting.functionClause, stranger.functionClause,
        stranger.missingClause, model.typeClause meeting, model.occurrenceIn meeting (some "one"),
        model.typeClause stranger, model.occurrenceIn stranger (some "one")] := rfl
  exact ⟨[meeting, stranger], _, _, by decide, by decide, by decide, List.pairwise_singleton _ _,
    rfl, by decide, hclauses, by decide +kernel⟩

/-- That everyone knows someone has the name of that everyone is known. That everyone meets someone
has the name of the clause on the types of the other relation. -/
theorem constraintNames_not_nodup : NamesRecur knows ∧ NamesRecur met :=
  ⟨namesRecur_knows, namesRecur_met⟩

def trust : Predicate :=
  ⟨"person_trusts_stranger", some "one stranger", [some "truster"], [some "trusted"]⟩

def trustClauses : List Clause :=
  [trust.functionClause, model.typeClause trust, model.occurrenceIn trust (some "truster"),
    model.occurrenceIn trust (some "trusted")]

/-- The constraints on trust have different names. -/
theorem nodup_constraintNames_trusts : trusts.uniquenessIds.Nodup ∧
    (model.relationsAndClauses trusts).result = .ok ([trust], [trust.functionClause]) ∧
    ([trust].map Predicate.name).Nodup ∧
    (model.factTypeClauses trusts).result = .ok trustClauses ∧
    (constraintNames trustClauses).Nodup := by
  have hdiffer : trusts.uniquenessIds.Nodup := by decide
  have hrelations : (model.relationsAndClauses trusts).result =
      .ok ([trust], [trust.functionClause]) := rfl
  have hnames : ([trust].map Predicate.name).Nodup := by decide
  have hclauses : (model.factTypeClauses trusts).result = .ok trustClauses := rfl
  obtain ⟨hiff, hmeet⟩ := Model.constraintNames_nodup_iff hdiffer hrelations hnames hclauses
  refine ⟨hdiffer, hrelations, hnames, hclauses, hiff.mpr ⟨?_, fun h => ?_⟩⟩
  · have htypes : model.requiredTypes trusts trust = ["person", "stranger"] := by rfl
    simp [htypes]
  · obtain ⟨p, hp, hinfix⟩ := hmeet h
    rw [List.mem_singleton.mp hp] at hinfix
    exact absurd hinfix (by decide)

end Acquaintances

end RoleSchema
