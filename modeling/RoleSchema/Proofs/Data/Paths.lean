import RoleSchema.Proofs.Data.Merge

/-!
# Values at paths

A key leads from a mapping to what it is bound to, and where that is a mapping, further keys lead
on. Everything that mappings within mappings hold is at some path of keys. Mappings that hold the
same at every path differ in nothing but the order of their keys.

* `Value.at?`: what a value holds at a path.
* `Entries.Alike`: mappings that hold the same at every path.
-/

namespace RoleSchema

namespace Value

/-- Whether a value is a mapping. -/
def isMapping : Value → Bool
  | .mapping _ => true
  | _ => false

/-- What a value holds at a path of keys; keys lead on from mappings only. -/
def at? : Value → List Value → Option Value
  | v, [] => some v
  | .mapping entries, key :: path => (Bindings.get? entries key).bind fun v => v.at? path
  | _, _ :: _ => none

/-- A value as it is told from others where what mappings hold is looked at apart. -/
def outline : Value → Value
  | .mapping _ => .mapping []
  | v => v

variable {v : Value} {key : Value} {path : List Value}

@[simp] theorem at?_nil (v : Value) : v.at? [] = some v := by
  cases v <;> rfl

/-- What is at a path that goes on is at the rest of it in what is at its beginning. -/
theorem at?_append (v : Value) (path path' : List Value) :
    v.at? (path ++ path') = (v.at? path).bind fun w => w.at? path' := by
  induction path generalizing v with
  | nil => rw [List.nil_append, at?_nil, Option.bind_some]
  | cons key path ih =>
    cases v with
    | mapping entries => exact (Option.bind_congr fun w _ => ih w).trans (Option.bind_assoc ..).symm
    | _ => rfl

theorem exists_of_isMapping (h : v.isMapping = true) : ∃ entries, v = .mapping entries := by
  cases v with
  | mapping entries => exact ⟨entries, rfl⟩
  | _ => cases h

/-- Only from a mapping do keys lead to a mapping. -/
theorem exists_of_at?_mapping {sub : Entries} (h : v.at? path = some (.mapping sub)) :
    ∃ entries, v = .mapping entries := by
  cases path with
  | nil =>
    rw [at?_nil] at h
    exact ⟨sub, Option.some.inj h⟩
  | cons key path =>
    cases v with
    | mapping entries => exact ⟨entries, rfl⟩
    | _ => cases h

/-- A value other than a mapping is known from its outline. -/
theorem eq_of_outline_eq {w : Value} (hv : v.isMapping = false) (h : w.outline = v.outline) :
    w = v := by
  cases v with
  | mapping entries => cases hv
  | _ =>
    cases w with
    | mapping entries => cases h
    | _ => exact h

theorem exists_of_outline_eq {entries : Entries} (h : v.outline = (mapping entries).outline) :
    ∃ sub, v = .mapping sub := by
  cases v with
  | mapping sub => exact ⟨sub, rfl⟩
  | _ => cases h

/-- Keys lead on from mappings only. -/
theorem at?_cons_of_isMapping_eq_false (h : v.isMapping = false) : v.at? (key :: path) = none := by
  cases v with
  | mapping entries => cases h
  | _ => rfl

theorem isText_of_isRemark (h : key.isRemark = true) : key.isText = true := by
  cases key with
  | text s => rfl
  | points ns => rfl
  | _ => cases h

end Value

namespace Bindings

variable {α : Type} {e : Bindings α} {key : Value} {a : α}

/-- A key that is bound to something may be bound to it again. -/
theorem put_of_get?_eq_some (h : e.get? key = some a) : put key a e = e := by
  induction e with
  | nil => cases h
  | cons b rest ih =>
    obtain ⟨k, c⟩ := b
    unfold put
    split
    · next hsame =>
      rw [get?_cons_of_same hsame] at h
      rw [Option.some.inj h]
    · next hother =>
      rw [get?_cons_of_other (Bool.eq_false_iff.mpr hother)] at h
      rw [ih h]

/-- Of two bindings of a key the later one counts. -/
theorem put_put_self (hkey : key.isText = true) (a c : α) :
    put key c (put key a e) = put key c e := by
  induction e with
  | nil => simp [put, (Value.sameKey_iff_of_isText (.inl hkey)).mpr rfl]
  | cons b rest ih =>
    obtain ⟨k, d⟩ := b
    by_cases hsame : k.sameKey key = true
    · simp [put, hsame]
    · simp [put, hsame, ih]

/-- Where all keys are texts, nothing else is bound. -/
theorem isText_of_get?_eq_some (htexts : ∀ x ∈ e, x.1.isText = true) (h : e.get? key = some a) :
    key.isText = true := by
  obtain ⟨x, hfind, -⟩ := Option.map_eq_some_iff.mp h
  have hx := htexts x (List.mem_of_find?_eq_some hfind)
  have hsame : x.1.sameKey key = true :=
    List.find?_some (p := fun x : Value × α => x.1.sameKey key) hfind
  exact (Value.sameKey_iff_of_isText (.inl hx)).mp hsame ▸ hx

end Bindings

namespace Entries

variable {e e' : Entries} {key v : Value} {path path' : List Value}

/-- What a mapping holds at a path of keys. -/
def at? (e : Entries) (path : List Value) : Option Value := (Value.mapping e).at? path

@[simp] theorem at?_nil (e : Entries) : e.at? [] = some (.mapping e) := rfl

theorem at?_cons (e : Entries) (key : Value) (path : List Value) :
    e.at? (key :: path) = (e.get? key).bind fun v => v.at? path := rfl

/-- What is at a path is at the rest of it in what its first key is bound to. -/
theorem at?_cons_eq_some_iff :
    e.at? (key :: path) = some v ↔ ∃ w, e.get? key = some w ∧ w.at? path = some v :=
  Option.bind_eq_some_iff

theorem at?_cons_congr (h : e.get? key = e'.get? key) :
    e.at? (key :: path) = e'.at? (key :: path) := by
  rw [at?_cons, at?_cons, h]

/-- Below a text there is nothing. -/
theorem at?_append_of_text {s : String} (h : e.at? path = some (.text s)) (hne : path' ≠ []) :
    e.at? (path ++ path') = none := by
  obtain ⟨key, path', rfl⟩ := List.exists_cons_of_ne_nil hne
  exact (Value.at?_append ..).trans (congrArg (Option.bind · _) h)

/-! ## Mappings that hold the same -/

/-- Two mappings hold the same at every path: equal values, or mappings. -/
def Alike (e e' : Entries) : Prop :=
  ∀ path, (e.at? path).map Value.outline = (e'.at? path).map Value.outline

end Entries

end RoleSchema
