import Mathlib.Data.List.Forall2
import RoleSchema.Report.Basic

/-!
# Runs that end with a value or a fault

A run of several steps ends with a value exactly when each of its steps does, on the value of the
step before, and with a fault exactly when one of them does. These equivalences take a run apart
step by step.

* `bind_eq_ok_iff`, `map_eq_ok_iff`, `mapError_eq_ok_iff`, `mapM_of_ok`, `forall₂_of_mapM`: for
  results without a report.
* `findSomeM?_eq`, `findSomeM?_of_perm`, `exists_of_findSomeM?_eq_ok`: for a search that goes on
  until it finds.
* `bind_eq_error_iff`, `exists_of_findSomeM?_eq_error`: for faults.
* `Reporting.result_bind_eq_ok_iff`, `Reporting.result_bind_eq_error_iff`: for runs that report.
* `Reporting.diagnostics_bind_of_ok`: what a run finds, step by step.
* `Reporting.Finds.bind`, `Reporting.Finds.recover`: what holds of all findings of a run.
-/

namespace RoleSchema

variable {ε ε' α β γ : Type}

theorem bind_eq_ok_iff {x : Except ε α} {f : α → Except ε β} {b : β} :
    x >>= f = .ok b ↔ ∃ a, x = .ok a ∧ f a = .ok b := by
  cases x with
  | error e => simp [bind, Except.bind]
  | ok a => simp [bind, Except.bind]

theorem ite_bind {m : Type → Type} [Monad m] {p : Prop} [Decidable p] (x y : m α)
    (f : α → m β) : (if p then x >>= f else y >>= f) = (if p then x else y) >>= f := by
  split <;> rfl

theorem mapError_eq_ok_iff {x : Except ε α} {f : ε → ε'} {a : α} :
    x.mapError f = .ok a ↔ x = .ok a := by
  constructor
  · intro h
    cases x with
    | error e => cases h
    | ok b =>
      cases h
      rfl
  · rintro rfl
    rfl

theorem map_eq_ok_iff {x : Except ε α} {f : α → β} {b : β} :
    x.map f = .ok b ↔ ∃ a, x = .ok a ∧ f a = b := by
  cases x with
  | error e => simp [Except.map]
  | ok a => simp [Except.map]

/-- Where no step fails, a step for each element of a list gives the list of their values. -/
theorem mapM_of_ok {f : α → Except ε β} {g : α → β} {xs : List α}
    (h : ∀ x ∈ xs, f x = .ok (g x)) : xs.mapM f = .ok (xs.map g) := by
  induction xs with
  | nil => rfl
  | cons x xs ih =>
    have hx := h x (by simp)
    have hxs := ih fun y hy => h y (by simp [hy])
    rw [List.mapM_cons, hx, hxs]
    rfl

/-- The values of a list of steps are those of the steps, in order. -/
theorem forall₂_of_mapM {f : α → Except ε β} {xs : List α} {ys : List β}
    (h : xs.mapM f = .ok ys) : List.Forall₂ (fun x y => f x = .ok y) xs ys := by
  induction xs generalizing ys with
  | nil =>
    cases h
    exact .nil
  | cons x xs ih =>
    rw [List.mapM_cons] at h
    obtain ⟨y, hy, h⟩ := bind_eq_ok_iff.mp h
    obtain ⟨zs, hz, h⟩ := bind_eq_ok_iff.mp h
    cases h
    exact .cons hy (ih hz)

/-- Where each step gives a value that is related to its element, the list of steps gives them all. -/
theorem exists_mapM_of_forall {f : α → Except ε β} {R : α → β → Prop} {xs : List α}
    (h : ∀ x ∈ xs, ∃ y, f x = .ok y ∧ R x y) : ∃ ys, xs.mapM f = .ok ys ∧ List.Forall₂ R xs ys := by
  induction xs with
  | nil => exact ⟨[], rfl, .nil⟩
  | cons x xs ih =>
    obtain ⟨y, hy, hr⟩ := h x (List.mem_cons_self ..)
    obtain ⟨ys, hys, hrs⟩ := ih fun z hz => h z (List.mem_cons_of_mem _ hz)
    refine ⟨y :: ys, ?_, .cons hr hrs⟩
    rw [List.mapM_cons, hy, hys]
    rfl

theorem exists_of_mem_of_forall₂ {R : α → β → Prop} {xs : List α} {ys : List β}
    (h : List.Forall₂ R xs ys) {y : β} (hy : y ∈ ys) : ∃ x ∈ xs, R x y := by
  induction h with
  | nil => cases hy
  | @cons x _ _ _ hxy _ ih =>
    rcases List.mem_cons.mp hy with rfl | hy
    · exact ⟨x, by simp, hxy⟩
    · obtain ⟨x', hx', hr⟩ := ih hy
      exact ⟨x', by simp [hx'], hr⟩

/-- Each value of a list of steps is that of one of them. -/
theorem exists_of_mem_of_mapM {f : α → Except ε β} {xs : List α} {ys : List β}
    (h : xs.mapM f = .ok ys) : ∀ y ∈ ys, ∃ x ∈ xs, f x = .ok y :=
  fun _ hy => exists_of_mem_of_forall₂ (forall₂_of_mapM h) hy

/-- A traversal that ends with a value goes through each element. -/
theorem exists_of_mapM_of_mem {f : α → Except ε β} {xs : List α} {ys : List β}
    (h : xs.mapM f = .ok ys) : ∀ x ∈ xs, ∃ y, f x = .ok y := by
  intro x hx
  obtain ⟨y, -, hy⟩ := exists_of_mem_of_forall₂ (forall₂_of_mapM h).flip hx
  exact ⟨y, hy⟩

theorem findSomeM?_cons_of_none {f : α → Except ε (Option β)} {x : α} {xs : List α}
    (h : f x = .ok none) : (x :: xs).findSomeM? f = xs.findSomeM? f := by
  simp only [List.findSomeM?, h, bind, Except.bind]

theorem findSomeM?_cons_of_ne {f : α → Except ε (Option β)} {x : α} {xs : List α}
    (h : f x ≠ .ok none) : (x :: xs).findSomeM? f = f x := by
  simp only [List.findSomeM?]
  cases hx : f x with
  | error e => rfl
  | ok o =>
    cases o with
    | none => exact absurd hx h
    | some b => rfl

theorem findSomeM?_eq_none {f : α → Except ε (Option β)} {xs : List α}
    (h : ∀ x ∈ xs, f x = .ok none) : xs.findSomeM? f = .ok none := by
  induction xs with
  | nil => rfl
  | cons x xs ih =>
    rw [findSomeM?_cons_of_none (h x (by simp))]
    exact ih fun y hy => h y (by simp [hy])

/-- A search answers as one of its steps does if each other step finds nothing or answers alike. -/
theorem findSomeM?_eq {f : α → Except ε (Option β)} {xs : List α} {a : Except ε (Option β)}
    (hxs : ∀ x ∈ xs, f x = .ok none ∨ f x = a) (h : ∃ x ∈ xs, f x = a) :
    xs.findSomeM? f = a := by
  induction xs with
  | nil => simp at h
  | cons x xs ih =>
    by_cases hn : f x = .ok none
    · rw [findSomeM?_cons_of_none hn]
      by_cases ha : a = .ok none
      · subst ha
        exact findSomeM?_eq_none fun y hy => by simpa using hxs y (by simp [hy])
      · have hrest : ∃ y ∈ xs, f y = a := by simpa [hn, Ne.symm ha] using h
        exact ih (fun y hy => hxs y (by simp [hy])) hrest
    · rw [findSomeM?_cons_of_ne hn, (hxs x (by simp)).resolve_left hn]

/-- Where one of two steps finds nothing, a search finds what the other does. -/
theorem findSomeM?_of_pair {f : α → Except ε (Option β)} {xs : List α} {x y : α} {o : Option β}
    (hxs : xs = [x, y] ∨ xs = [y, x]) (hx : f x = .ok o) (hy : f y = .ok none) :
    xs.findSomeM? f = .ok o := by
  refine findSomeM?_eq (fun z hz => ?_) ⟨x, by rcases hxs with rfl | rfl <;> simp, hx⟩
  have hz : z = x ∨ z = y := by
    rcases hxs with rfl | rfl
    · simpa using hz
    · simpa [or_comm] using hz
  rcases hz with rfl | rfl
  · exact Or.inr hx
  · exact Or.inl hy

/-- The order of the steps does not matter to a search in which all that find something answer
alike. -/
theorem findSomeM?_of_perm {f : α → Except ε (Option β)} {xs ys : List α} (h : xs.Perm ys)
    (hf : ∀ x ∈ xs, ∀ y ∈ xs, f x ≠ .ok none → f y ≠ .ok none → f x = f y) :
    xs.findSomeM? f = ys.findSomeM? f := by
  by_cases hx : ∃ x ∈ xs, f x ≠ .ok none
  · obtain ⟨x, hx, hn⟩ := hx
    have hall : ∀ y ∈ xs, f y = .ok none ∨ f y = f x := by
      intro y hy
      by_cases hy' : f y = .ok none
      · exact Or.inl hy'
      · exact Or.inr (hf y hy x hx hy' hn)
    rw [findSomeM?_eq hall ⟨x, hx, rfl⟩]
    exact (findSomeM?_eq (fun y hy => hall y (h.mem_iff.mpr hy)) ⟨x, h.mem_iff.mp hx, rfl⟩).symm
  · have hall : ∀ x ∈ xs, f x = .ok none := by simpa using hx
    rw [findSomeM?_eq_none hall, findSomeM?_eq_none fun y hy => hall y (h.mem_iff.mpr hy)]

theorem findSomeM?_congr {f g : α → Except ε (Option β)} {xs : List α}
    (h : ∀ x ∈ xs, f x = g x) : xs.findSomeM? f = xs.findSomeM? g := by
  induction xs with
  | nil => rfl
  | cons x xs ih =>
    have hx := h x (by simp)
    have hxs := ih fun y hy => h y (by simp [hy])
    simp only [List.findSomeM?, hx, hxs]

/-- What the steps of a search find may be changed before or afterwards. -/
theorem findSomeM?_map {f : α → Except ε (Option β)} {g : α → Except ε (Option γ)} {h : β → γ}
    {xs : List α} (hfg : ∀ x ∈ xs, g x = (f x).map (Option.map h)) :
    xs.findSomeM? g = (xs.findSomeM? f).map (Option.map h) := by
  induction xs with
  | nil => rfl
  | cons x xs ih =>
    have hrest := ih fun y hy => hfg y (by simp [hy])
    simp only [List.findSomeM?, hfg x (by simp), hrest]
    cases f x with
    | error e => rfl
    | ok o => cases o <;> rfl

/-- A search among changed elements is one among the elements. -/
theorem findSomeM?_among {f : β → Except ε (Option γ)} (k : α → β) (xs : List α) :
    (xs.map k).findSomeM? f = xs.findSomeM? fun x => f (k x) := by
  induction xs with
  | nil => rfl
  | cons x xs ih =>
    rw [List.map_cons]
    simp only [List.findSomeM?, ih]

/-- What a search finds is the value of one of its steps, before which no step finds anything. -/
theorem exists_first_of_findSomeM? {f : α → Except ε (Option β)} {xs : List α} {b : β}
    (h : xs.findSomeM? f = .ok (some b)) :
    ∃ before x after, xs = before ++ x :: after ∧ f x = .ok (some b) ∧
      ∀ y ∈ before, f y = .ok none := by
  induction xs with
  | nil => cases h
  | cons x xs ih =>
    obtain ⟨o, hx, ho⟩ := bind_eq_ok_iff.mp h
    cases o with
    | none =>
      obtain ⟨before, y, after, rfl, hy, hbefore⟩ := ih ho
      refine ⟨x :: before, y, after, rfl, hy, ?_⟩
      rintro z hz
      rcases List.mem_cons.mp hz with rfl | hz
      · exact hx
      · exact hbefore z hz
    | some b' =>
      obtain rfl : b' = b := by simpa [pure, Except.pure] using ho
      exact ⟨[], x, xs, rfl, hx, by simp⟩

theorem exists_of_findSomeM?_eq_ok {f : α → Except ε (Option β)} {xs : List α} {b : β}
    (h : xs.findSomeM? f = .ok (some b)) : ∃ x ∈ xs, f x = .ok (some b) := by
  obtain ⟨before, x, after, rfl, hx, -⟩ := exists_first_of_findSomeM? h
  exact ⟨x, by simp, hx⟩

/-- Where a search finds nothing, no step does. -/
theorem forall_of_findSomeM?_eq_none {f : α → Except ε (Option β)} {xs : List α}
    (h : xs.findSomeM? f = .ok none) : ∀ x ∈ xs, f x = .ok none := by
  induction xs with
  | nil => simp
  | cons x xs ih =>
    obtain ⟨o, hx, ho⟩ := bind_eq_ok_iff.mp h
    cases o with
    | none =>
      intro y hy
      rcases List.mem_cons.mp hy with rfl | hy
      · exact hx
      · exact ih ho y hy
    | some b => cases ho

/-! ## Faults -/

theorem bind_eq_error_iff {x : Except ε α} {f : α → Except ε β} {e : ε} :
    x >>= f = .error e ↔ x = .error e ∨ ∃ a, x = .ok a ∧ f a = .error e := by
  cases x with
  | error e' => simp [bind, Except.bind]
  | ok a => simp [bind, Except.bind]

theorem map_eq_error_iff {x : Except ε α} {f : α → β} {e : ε} :
    x.map f = .error e ↔ x = .error e := by
  cases x with
  | error e' => simp [Except.map]
  | ok a => simp [Except.map]

theorem mapError_eq_error_iff {x : Except ε α} {f : ε → ε'} {e : ε'} :
    x.mapError f = .error e ↔ ∃ e', x = .error e' ∧ f e' = e := by
  constructor
  · intro h
    cases x with
    | error e' =>
      cases h
      exact ⟨e', rfl, rfl⟩
    | ok a => cases h
  · rintro ⟨e', rfl, rfl⟩
    rfl

/-- A search fails only on one of its steps. -/
theorem exists_of_findSomeM?_eq_error {f : α → Except ε (Option β)} {xs : List α} {e : ε}
    (h : xs.findSomeM? f = .error e) : ∃ x ∈ xs, f x = .error e := by
  induction xs with
  | nil => cases h
  | cons x xs ih =>
    rcases bind_eq_error_iff.mp h with hx | ⟨o, hx, ho⟩
    · exact ⟨x, by simp, hx⟩
    · cases o with
      | none =>
        obtain ⟨y, hy, he⟩ := ih ho
        exact ⟨y, by simp [hy], he⟩
      | some b => cases ho

namespace Reporting

theorem result_bind_eq_ok_iff {x : Reporting ε α} {f : α → Reporting ε β} {b : β} :
    (x >>= f).result = .ok b ↔ ∃ a, x.result = .ok a ∧ (f a).result = .ok b := by
  obtain ⟨es, e | a⟩ := x
  · simp
  · simp

theorem result_bind_eq_error_iff {x : Reporting ε α} {f : α → Reporting ε β} {e : ε} :
    (x >>= f).result = .error e ↔
      x.result = .error e ∨ ∃ a, x.result = .ok a ∧ (f a).result = .error e := by
  obtain ⟨es, e' | a⟩ := x
  · simp
  · simp

/-- After a step that ends with a value, a run ends as the rest of it does. -/
theorem result_bind_of_ok {x : Reporting ε α} {a : α} (h : x.result = .ok a)
    (f : α → Reporting ε β) : (x >>= f).result = (f a).result := by
  obtain ⟨es, r⟩ := x
  obtain rfl : r = .ok a := h
  rfl

/-- A run that ends with a value is not recovered. -/
theorem result_recover_of_ok {x : Reporting ε α} {a : α} (h : x.result = .ok a)
    (handle : ε → Reporting ε' α) : (x.recover handle).result = .ok a := by
  obtain ⟨es, r⟩ := x
  obtain rfl : r = .ok a := h
  rfl

@[simp] theorem result_ofExcept (x : Except ε α) : (ofExcept x).result = x := rfl

/-! ## Values and findings -/

/-- The run ends with a value. -/
def Returns (x : Reporting ε α) : Prop := ∃ a, x.result = .ok a

/-- The value with which a run ends, the default where it ends with a fault. -/
def value [Inhabited α] (x : Reporting ε α) : α :=
  match x.result with
  | .ok a => a
  | .error _ => default

theorem returns_bind_of_ok {x : Reporting ε α} {a : α} (h : x.result = .ok a)
    (f : α → Reporting ε β) : (x >>= f).Returns ↔ (f a).Returns := by
  unfold Returns
  rw [result_bind_of_ok h]

theorem value_of_ok [Inhabited α] {x : Reporting ε α} {a : α} (h : x.result = .ok a) :
    x.value = a := by
  simp only [value, h]

theorem Returns.result_eq [Inhabited α] {x : Reporting ε α} (h : x.Returns) :
    x.result = .ok x.value := by
  obtain ⟨a, ha⟩ := h
  rw [value_of_ok ha, ha]

theorem result_ofExcept_mapError {x : Except ε α} {f : ε → ε'} {a : α} (h : x = .ok a) :
    (ofExcept (x.mapError f)).result = .ok a := by
  rw [result_ofExcept, mapError_eq_ok_iff, h]

theorem ofExcept_map_bind (x : Except ε α) (f : α → β) (k : β → Reporting ε γ) :
    (ofExcept (x.map f) >>= k) = ofExcept x >>= fun a => k (f a) := by
  cases x <;> rfl

theorem map_bind (x : Reporting ε α) (f : α → β) (k : β → Reporting ε γ) :
    (x.map f >>= k) = x >>= fun a => k (f a) := by
  obtain ⟨es, e | a⟩ := x <;> rfl

theorem bind_map (x : Reporting ε α) (k : α → Reporting ε β) (f : β → γ) :
    (x >>= k).map f = x >>= fun a => (k a).map f := by
  obtain ⟨es, e | a⟩ := x <;> rfl

theorem diagnosticsOf_append (es es' : List Event) :
    diagnosticsOf (es ++ es') = diagnosticsOf es ++ diagnosticsOf es' := List.filterMap_append

/-- After a step that ends with a value, the findings of the rest follow those of the step. -/
theorem diagnostics_bind_of_ok {x : Reporting ε α} {a : α} (h : x.result = .ok a)
    (f : α → Reporting ε β) : (x >>= f).diagnostics = x.diagnostics ++ (f a).diagnostics := by
  obtain ⟨es, r⟩ := x
  obtain rfl : r = .ok a := h
  exact diagnosticsOf_append es (f a).events

theorem diagnostics_recover_of_ok {x : Reporting ε α} {a : α} (h : x.result = .ok a)
    (handle : ε → Reporting ε' α) : (x.recover handle).diagnostics = x.diagnostics := by
  obtain ⟨es, r⟩ := x
  obtain rfl : r = .ok a := h
  rfl

theorem result_bind_pure (x : Reporting ε α) (f : α → β) :
    (x >>= fun a => pure (f a)).result = x.result.map f := by
  obtain ⟨es, e | a⟩ := x <;> rfl

theorem diagnostics_bind_pure (x : Reporting ε α) (f : α → β) :
    (x >>= fun a => pure (f a)).diagnostics = x.diagnostics := by
  obtain ⟨es, e | a⟩ := x
  · rfl
  · simp only [bind_ok, pure_eq, List.append_nil, diagnostics]

/-! ## What holds of all findings -/

/-- Every finding of a run has a property, whether the run ends with a value or a fault. -/
def Finds (P : Diagnostic → Prop) (x : Reporting ε α) : Prop := ∀ d ∈ x.diagnostics, P d

section

variable {P : Diagnostic → Prop} {x : Reporting ε α}

theorem finds_pure (a : α) : (pure a : Reporting ε α).Finds P := fun _ hd => absurd hd (by
  simp [diagnostics, diagnosticsOf])

theorem finds_ofExcept (r : Except ε α) : (ofExcept r).Finds P := fun _ hd => absurd hd (by
  simp [ofExcept, diagnostics, diagnosticsOf])

theorem finds_fail (e : ε) : (fail e : Reporting ε α).Finds P := fun _ hd => absurd hd (by
  simp [fail, diagnostics, diagnosticsOf])

theorem finds_note (level : Level) (text : String) :
    (note level text : Reporting ε Unit).Finds P := fun _ hd => absurd hd (by
  simp [note, report, diagnostics, diagnosticsOf, Event.diagnostic?])

theorem finds_find {d : Diagnostic} (h : P d) : (find d : Reporting ε Unit).Finds P := by
  simpa [Finds, find, report, diagnostics, diagnosticsOf, Event.diagnostic?] using h

theorem Finds.map (h : x.Finds P) (f : α → β) : (x.map f).Finds P := h

theorem Finds.bind {f : α → Reporting ε β} (hx : x.Finds P) (hf : ∀ a, (f a).Finds P) :
    (x >>= f).Finds P := by
  intro d hd
  obtain ⟨es, e | a⟩ := x
  · exact hx d hd
  · rw [diagnostics_bind_of_ok rfl, List.mem_append] at hd
    rcases hd with hd | hd
    · exact hx d hd
    · exact hf a d hd

theorem Finds.recover {handle : ε → Reporting ε' α} (hx : x.Finds P)
    (hhandle : ∀ e, (handle e).Finds P) : (x.recover handle).Finds P := by
  intro d hd
  obtain ⟨es, e | a⟩ := x
  · simp only [Reporting.recover, diagnostics, diagnosticsOf_append, List.mem_append] at hd
    rcases hd with hd | hd
    · exact hx d hd
    · exact hhandle e d hd
  · exact hx d hd

end

/-- Steps that go alike on the value of the step before make runs that go alike. -/
theorem bind_congr {x : Reporting ε α} {f g : α → Reporting ε β}
    (h : ∀ a, x.result = .ok a → f a = g a) : x >>= f = x >>= g := by
  obtain ⟨es, e | a⟩ := x
  · rfl
  · rw [bind_ok, bind_ok, h a rfl]

end Reporting

end RoleSchema
