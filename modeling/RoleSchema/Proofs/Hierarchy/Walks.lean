import RoleSchema.Proofs.Hierarchy.Reach
import Mathlib.Data.List.Forall2

/-!
# Runs of walks

Several walks share what they have visited: each leaves out what an earlier one has been to. A run
of walks from any entity types is one walk from all of them, cut into parts, so that every entity
type that is reached contributes once and in one part only.

* `flatten_walkParts`: the parts of a run make up one walk.
* `walks_coverOnce`: what a run of walks visits and contributes, on every graph of subtype facts.
-/

namespace RoleSchema

namespace Model

variable (m : Model)

/-- The walks of a run, one from each start; each goes on with what the one before has visited. -/
def walks (d : Diagram) (visited : List Id) : List ObjectType → List Walk
  | [] => []
  | e :: rest => m.walk d visited e :: walks d (m.walk d visited e).visited rest

/-- What each walk of a run reaches. -/
def walkParts (visited : List Id) : List ObjectType → List (List ObjectType)
  | [] => []
  | e :: rest => (m.reach visited [e]).1 :: walkParts (m.reach visited [e]).2 rest

/-- What a run of walks from `starts` visits and contributes. -/
structure CoversOnce (d : Diagram) (starts : List ObjectType) : Prop where
  /-- Every start has its walk. -/
  length_walks : (m.walks d [] starts).length = starts.length
  /-- After each walk exactly what the starts so far reach has been visited. -/
  visited : ∀ k w, (m.walks d [] starts)[k]? = some w →
    ∀ id, id ∈ w.visited ↔ ∃ t ∈ starts.take (k + 1), ∃ e, m.Reaches t e ∧ e.id = id
  /-- Whatever the starts reach contributes to one walk, and only once. -/
  once : ∃ parts, List.Forall₂ (fun part w => Walk.ComesOf w m d part) parts (m.walks d [] starts) ∧
    (parts.flatten.map ObjectType.id).Nodup ∧
    ∀ e, e ∈ parts.flatten ↔ ∃ t ∈ starts, m.Reaches t e
  /-- What is drawn contributes its clauses or one warning, and anything else nothing. -/
  share : ∀ e, m.SharesOf d e
  /-- In another order of the starts a run gives the same, up to the order. -/
  order : ∀ starts', starts'.Perm starts →
    ((m.walks d [] starts').flatMap Walk.clauses).Perm ((m.walks d [] starts).flatMap Walk.clauses) ∧
    ((m.walks d [] starts').flatMap Walk.findings).Perm
      ((m.walks d [] starts).flatMap Walk.findings)

variable {m} {d : Diagram} {starts : List ObjectType}

theorem length_walks (visited : List Id) (starts : List ObjectType) :
    (m.walks d visited starts).length = starts.length := by
  induction starts generalizing visited with
  | nil => rfl
  | cons e rest ih => simp only [walks, List.length_cons, ih]

/-- The parts of a run make up one walk from all starts. -/
theorem flatten_walkParts (visited : List Id) (starts : List ObjectType) :
    (m.walkParts visited starts).flatten = (m.reach visited starts).1 := by
  induction starts generalizing visited with
  | nil => simp [walkParts]
  | cons e rest ih =>
    have happ := m.reach_append visited [e] rest
    rw [List.singleton_append] at happ
    rw [happ, walkParts, List.flatten_cons, ih]

theorem forall₂_walkParts (visited : List Id) (starts : List ObjectType) :
    List.Forall₂ (fun part w => Walk.ComesOf w m d part) (m.walkParts visited starts)
      (m.walks d visited starts) := by
  induction starts generalizing visited with
  | nil => exact .nil
  | cons e rest ih => exact .cons (walk_comesOf d visited e) (ih _)

/-- After `k + 1` walks as much has been visited as after one walk from the starts so far. -/
theorem visited_walks {visited : List Id} {k : Nat} {w : Walk}
    (h : (m.walks d visited starts)[k]? = some w) :
    w.visited = (m.reach visited (starts.take (k + 1))).2 := by
  induction starts generalizing visited k with
  | nil => simp [walks] at h
  | cons e rest ih =>
    have happ := m.reach_append visited [e] (rest.take k)
    rw [List.singleton_append] at happ
    rw [List.take_succ_cons, happ]
    cases k with
    | zero =>
      obtain rfl : m.walk d visited e = w := by simpa [walks] using h
      simp [visited_walk]
    | succ k =>
      rw [walks, List.getElem?_cons_succ] at h
      exact ih h

/-- A run gives what the entity types contribute that one walk from all starts reaches. -/
theorem flatMap_walks {α : Type} (part : Walk → List α) (own : ObjectType → List α)
    (h : ∀ visited e, part (m.walk d visited e) = (m.reach visited [e]).1.flatMap own)
    (visited : List Id) (starts : List ObjectType) :
    (m.walks d visited starts).flatMap part = (m.reach visited starts).1.flatMap own := by
  rw [← flatten_walkParts]
  induction starts generalizing visited with
  | nil => rfl
  | cons e rest ih =>
    rw [walks, walkParts, List.flatMap_cons, List.flatten_cons, List.flatMap_append, h, ih,
      visited_walk]

/-- **Runs of walks.** A run of walks from entity types of the model ends for every graph of subtype
facts; each walk leaves visited exactly what can be reached so far, every entity type that can be
reached contributes to exactly one walk, and the order of the starts changes only the order of what
the run gives. -/
theorem walks_coverOnce (h : ∀ e ∈ starts, m.IsOwnEntity e) : m.CoversOnce d starts where
  length_walks := length_walks [] starts
  visited := by
    intro k w hw id
    have htake : ∀ e ∈ starts.take (k + 1), m.IsOwnEntity e := fun e he =>
      h e (List.mem_of_mem_take he)
    rw [visited_walks hw, mem_visited_reach]
    simp only [mem_reach_iff htake, List.not_mem_nil, or_false]
    constructor
    · rintro ⟨e, ⟨t, ht, hr⟩, hid⟩
      exact ⟨t, ht, e, hr, hid⟩
    · rintro ⟨t, ht, e, hr, hid⟩
      exact ⟨e, ⟨t, ht, hr⟩, hid⟩
  once := by
    refine ⟨m.walkParts [] starts, forall₂_walkParts [] starts, ?_, ?_⟩
    · rw [flatten_walkParts]
      exact (nodup_reach [] starts).1
    · intro e
      rw [flatten_walkParts]
      exact mem_reach_iff h
  share := sharesOf d
  order := by
    intro starts' hp
    have hclauses := flatMap_walks (m := m) (d := d) Walk.clauses _ fun visited e =>
      (walk_comesOf d visited e).1
    have hfindings := flatMap_walks (m := m) (d := d) Walk.findings _ fun visited e =>
      (walk_comesOf d visited e).2
    rw [hclauses, hclauses, hfindings, hfindings]
    have hreach := perm_reach h hp
    exact ⟨hreach.flatMap_right _, hreach.flatMap_right _⟩

end Model

/-! ## Assistants -/

namespace Assistants

def person : ObjectType := { id := some "person", name := "Person", kind := .entity }

def employee : ObjectType := { id := some "employee", name := "employee", kind := .entity }

def student : ObjectType := { id := some "student", name := "Student", kind := .entity }

def assistant : ObjectType := { id := some "assistant", name := "Assistant", kind := .entity }

/-- Assistants are employees and students, students are students, and to close the circle persons are
assistants. -/
def model : Model where
  objects := [person, employee, student, assistant]
  subtypeFacts :=
    [{ id := some "f1", subtypeId := some "employee", supertypeId := some "person" },
      { id := some "f2", subtypeId := some "student", supertypeId := some "person" },
      { id := some "f3", subtypeId := some "student", supertypeId := some "student" },
      { id := some "f4", subtypeId := some "assistant", supertypeId := some "employee" },
      { id := some "f5", subtypeId := some "assistant", supertypeId := some "student" },
      { id := some "f6", subtypeId := some "assistant", supertypeId := some "student" },
      { id := some "f7", subtypeId := some "person", supertypeId := some "assistant" }]

/-- A diagram without students. -/
def diagram : Diagram where
  id := some "diagram"
  name := "Person:concept"
  subjectRefs := [some "person", some "employee", some "assistant"]

/-- Walks from employees and then from persons. -/
theorem walks_coverOnce_assistants :
    (∀ e ∈ [employee, person], model.IsOwnEntity e) ∧
      model.CoversOnce diagram [employee, person] := by
  have hown : ∀ e ∈ [employee, person], model.IsOwnEntity e := by
    intro e he
    rcases List.mem_cons.mp he with rfl | he
    · rfl
    · obtain rfl := List.mem_singleton.mp he
      rfl
  exact ⟨hown, Model.walks_coverOnce hown⟩

end Assistants

end RoleSchema
