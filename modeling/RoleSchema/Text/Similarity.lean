/-!
# Similarity of texts

How much two texts share: the longest run of characters that is in both, and what is shared to the
left and to the right of it. Texts that share enough are offered where a name is unknown.
-/

namespace RoleSchema.Text

/-- The number of characters in which two texts agree from their beginning. -/
def agreement : List Char → List Char → Nat
  | a :: as, b :: bs => if a = b then agreement as bs + 1 else 0
  | _, _ => 0

/-- A run of characters that is in two texts, with its places. -/
structure SharedRun where
  left : Nat
  right : Nat
  size : Nat
  deriving DecidableEq, Repr

/-- The runs of characters that are in two texts, one for each pair of places. -/
def sharedRuns (a b : List Char) : List SharedRun :=
  (List.range a.length).flatMap fun i =>
    (List.range b.length).map fun j => ⟨i, j, agreement (a.drop i) (b.drop j)⟩

/-- The longest run of characters that is in two texts; of several the first. -/
def longestRun (a b : List Char) : SharedRun :=
  (sharedRuns a b).foldl (fun best run => if best.size < run.size then run else best) ⟨0, 0, 0⟩

/-- The number of characters that two texts share. -/
def sharedLength (a b : List Char) : Nat :=
  match longestRun a b with
  | ⟨left, right, size⟩ =>
    if 0 < size ∧ left + size ≤ a.length then
      sharedLength (a.take left) (b.take right) + size +
        sharedLength (a.drop (left + size)) (b.drop (right + size))
    else 0
termination_by a.length
decreasing_by all_goals simp only [List.length_take, List.length_drop]; omega

/-- How alike two texts are, in shares of all their characters. -/
structure Likeness where
  shared : Nat
  total : Nat
  deriving DecidableEq, Repr

namespace Likeness

/-- The likeness of two texts. -/
def ofTexts (a b : String) : Likeness :=
  ⟨2 * sharedLength a.toList b.toList, a.length + b.length⟩

/-- Whether three fifths are shared. -/
def isHigh (l : Likeness) : Bool := 3 * l.total ≤ 5 * l.shared

/-- Whether a likeness is higher than another one. -/
def isAbove (l m : Likeness) : Bool := m.shared * l.total < l.shared * m.total

end Likeness

/-- The three names that are most like a text, in their order. -/
def similarNames (names : List String) (text : String) : List String :=
  let likenesses := names.map fun name => (Likeness.ofTexts name text, name)
  let ranked := (likenesses.filter fun p => p.1.isHigh).mergeSort fun p q =>
    p.1.isAbove q.1 || (!q.1.isAbove p.1 && q.2 ≤ p.2)
  ((ranked.take 3).map Prod.snd).mergeSort fun p q => p ≤ q

end RoleSchema.Text
