import RoleSchema.Proofs.Data.Merge
import RoleSchema.Proofs.Result
import RoleSchema.Yaml.Document

/-!
# Documents bind each key once

However often a key comes up in a mapping of a document, it is bound once in the mapping that is
built, to what it stands before last. This holds of all mappings in the graph of the documents, and
so of the mappings within a document that is a tree.

* `Builder.Yields`: what the steps of building keep and give.
* `proper_documents`: the documents of a text.
* `Graph.proper_treeValue`: the mappings of a tree.
-/

namespace RoleSchema

/-! ## Graphs -/

/-- A value without mappings at the top. -/
def Value.IsLeaf (v : Value) : Prop := ∀ entries, v ≠ .mapping entries

/-- A value that is an item has no bindings of its own. -/
def Item.Proper : Item → Prop
  | .value v => v.IsLeaf
  | .place _ => True

/-- Each key of a collection is bound once. -/
def Collection.Proper : Collection → Prop
  | .mapping entries => entries.Distinct ∧ ∀ e ∈ entries, e.2.Proper
  | _ => True

namespace Graph

/-- Each key of each mapping is bound once. -/
def Proper (g : Graph) : Prop := ∀ c ∈ g.places, c.Proper

variable {g : Graph} {c : Collection}

theorem Proper.get (h : g.Proper) (place : Nat) : (g.get place).Proper := by
  unfold Graph.get
  rw [Array.getD_eq_getD_getElem?]
  cases hc : g.places[place]? with
  | none => exact trivial
  | some c => exact h c (Array.mem_of_getElem? hc)

theorem Proper.push (h : g.Proper) (hc : c.Proper) : Proper ⟨g.places.push c⟩ := by
  intro c' hc'
  rcases Array.mem_push.mp hc' with hc' | rfl
  · exact h c' hc'
  · exact hc

theorem Proper.set (h : g.Proper) (place : Nat) (hc : c.Proper) : (g.set place c).Proper := by
  intro c' hc'
  rcases Array.mem_or_eq_of_mem_setIfInBounds hc' with hc' | rfl
  · exact h c' hc'
  · exact hc

/-- In a tree whose mappings bind each key once, so do the mappings within a value. -/
theorem proper_treeValue (h : g.Proper) {n : Nat} {item : Item} (hitem : item.Proper)
    {entries : Entries} (hvalue : g.treeValue n item = .mapping entries) : entries.Proper := by
  induction n generalizing item entries with
  | zero =>
    cases item with
    | value v => exact absurd hvalue (hitem entries)
    | place p => cases hvalue
  | succ n ih =>
    cases item with
    | value v => exact absurd hvalue (hitem entries)
    | place p =>
      have hc := h.get p
      unfold treeValue at hvalue
      cases hget : g.get p with
      | mapping bound =>
        rw [hget] at hvalue hc
        obtain rfl : bound.map (fun e => (e.1, g.treeValue n e.2)) = entries :=
          Value.mapping.inj hvalue
        intro path sub hpath hsub
        cases path with
        | nil =>
          cases hsub
          exact List.pairwise_map.mpr hc.1
        | cons key path =>
          obtain ⟨hkey, hpath⟩ := List.forall_mem_cons.mp hpath
          obtain ⟨inner, hinner, hsub⟩ := Entries.exists_of_within_cons hsub
          obtain ⟨e, he, heq⟩ := List.mem_map.mp (Bindings.mem_of_get?_eq_some hkey hinner)
          exact ih (hc.2 e he) (congrArg Prod.snd heq) path sub hpath hsub
      | list items | pairs items | set items =>
        rw [hget] at hvalue
        cases hvalue

end Graph

namespace Yaml

/-! ## Scalars -/

theorem isLeaf_time {t : TimeForm} {v : Value} (h : t.value = .ok v) : v.IsLeaf := by
  intro entries
  rintro rfl
  unfold TimeForm.value at h
  split at h
  · obtain ⟨day, -, h⟩ := bind_eq_ok_iff.mp h
    cases h
  · -- all that comes before the end is a fault
    simp only [bind, Except.bind, throw, throwThe, MonadExceptOf.throw, pure, Except.pure] at h
    repeat' split at h
    all_goals cases h

/-- No scalar is a mapping. -/
theorem isLeaf_scalarValue {k : Kind} {content : Content} {v : Value}
    (h : scalarValue k content = .ok v) : v.IsLeaf := by
  intro entries
  rintro rfl
  unfold scalarValue at h
  cases k with
  | text => cases content <;> cases h
  | int | float =>
    obtain ⟨n, -, h⟩ := map_eq_ok_iff.mp h
    cases h
  | bool | bytes =>
    simp only at h
    split at h <;> cases h
  | time =>
    simp only at h
    split at h
    · exact isLeaf_time h entries rfl
    · cases h
  | _ => cases h

theorem isLeaf_value {nodes : Nodes} {id : NodeId} {v : Value} (h : nodes.value id = .ok v) :
    v.IsLeaf := by
  unfold Nodes.value at h
  simp only [bind, Except.bind, throw, throwThe, MonadExceptOf.throw] at h
  repeat' split at h
  all_goals first | cases h | exact isLeaf_scalarValue h

/-! ## Building -/

/-- What has been built binds each key once. -/
structure Build.Proper (b : Build) : Prop where
  graph : b.graph.Proper
  items : ∀ item, some item ∈ b.items → item.Proper

theorem Build.Proper.setItem {b : Build} (h : b.Proper) (id : NodeId) {item : Item}
    (hitem : item.Proper) :
    ∀ other, some other ∈ b.items.setIfInBounds id (some item) → other.Proper := by
  intro other hother
  rcases Array.mem_or_eq_of_mem_setIfInBounds hother with hother | hother
  · exact h.items other hother
  · cases hother
    exact hitem

namespace Builder

variable {α β : Type}

/-- A step of building keeps each key bound once and gives what has a property. -/
def Yields (x : Builder α) (Q : α → Prop) : Prop :=
  ∀ b a b', b.Proper → x.run b = .ok (a, b') → b'.Proper ∧ Q a

variable {x : Builder α} {f : α → Builder β} {P Q : α → Prop} {R : β → Prop}

theorem yields_pure {a : α} (h : Q a) : (pure a : Builder α).Yields Q := by
  intro b a' b' hb hrun
  cases hrun
  exact ⟨hb, h⟩

theorem yields_throw (fault : Fault) : (throw fault : Builder α).Yields Q := by
  intro b a b' hb hrun
  cases hrun

theorem yields_throw_bind (fault : Fault) :
    ((throw fault : Builder α) >>= f).Yields R := by
  intro b a b' hb hrun
  cases hrun

theorem Yields.bind (hx : x.Yields P) (hf : ∀ a, P a → (f a).Yields R) : (x >>= f).Yields R := by
  intro b c b'' hb hrun
  rw [StateT.run_bind] at hrun
  obtain ⟨⟨a, b'⟩, hrun₁, hrun₂⟩ := bind_eq_ok_iff.mp hrun
  obtain ⟨hb', ha⟩ := hx b a b' hb hrun₁
  exact hf a ha b' c b'' hb' hrun₂

theorem yields_get : (get : Builder Build).Yields Build.Proper := by
  intro b a b' hb hrun
  cases hrun
  exact ⟨hb, hb⟩

theorem yields_set {b : Build} (h : b.Proper) : (set b : Builder PUnit).Yields fun _ => True := by
  intro b' a b'' hb hrun
  cases hrun
  exact ⟨h, trivial⟩

theorem yields_modify {g : Build → Build} (h : ∀ b, b.Proper → (g b).Proper) :
    (modify g : Builder PUnit).Yields fun _ => True := by
  intro b a b' hb hrun
  cases hrun
  exact ⟨h b hb, trivial⟩

theorem yields_lift {r : Except Fault α} (h : ∀ a, r = .ok a → Q a) :
    (liftM r : Builder α).Yields Q := by
  intro b a b' hb hrun
  cases r with
  | error fault => cases hrun
  | ok c =>
    cases hrun
    exact ⟨hb, h _ rfl⟩

theorem yields_mapM (hf : ∀ a, (f a).Yields R) : (as : List α) →
    (as.mapM f).Yields fun bs => ∀ b ∈ bs, R b
  | [] => by
    rw [List.mapM_nil]
    exact yields_pure fun _ hb => absurd hb List.not_mem_nil
  | a :: as => by
    rw [List.mapM_cons]
    refine (hf a).bind fun b hb => (yields_mapM hf as).bind fun bs hbs => yields_pure ?_
    exact List.forall_mem_cons.mpr ⟨hb, hbs⟩

/-- A node becomes an item without bindings of its own. -/
theorem yields_item (id : NodeId) : (item id).Yields Item.Proper := by
  unfold item
  refine yields_get.bind fun b hb => ?_
  split
  · next i hi =>
    refine yields_pure (hb.items i ?_)
    rw [Array.getD_eq_getD_getElem?] at hi
    cases ho : b.items[id]? with
    | none =>
      rw [ho] at hi
      cases hi
    | some o =>
      rw [ho] at hi
      obtain rfl : o = some i := hi
      exact Array.mem_of_getElem? ho
  · split
    · next c hc =>
      have hempty : c.Proper := by
        unfold emptyOf? at hc
        split at hc <;> cases hc
        · exact trivial
        · exact ⟨.nil, fun _ he => absurd he List.not_mem_nil⟩
        · exact trivial
        · exact trivial
      have hplace : (Item.place b.graph.places.size).Proper := trivial
      refine (yields_set ?_).bind fun _ _ => yields_pure hplace
      exact ⟨hb.graph.push hempty, hb.setItem id hplace⟩
    · refine (yields_lift fun v => isLeaf_value).bind fun v hv => ?_
      have hitem : (Item.value v).Proper := hv
      refine (yields_set ?_).bind fun _ _ => yields_pure hitem
      exact ⟨hb.graph, hb.setItem id hitem⟩

theorem yields_key (id : NodeId) : (key id).Yields fun _ => True := by
  unfold key
  refine (yields_item id).bind fun item _ => ?_
  split
  · exact yields_pure trivial
  · exact yields_throw _

theorem yields_bindings {bound : Bindings Item} (h : (Collection.mapping bound).Proper)
    (entries : List (NodeId × NodeId)) :
    (bindings bound entries).Yields fun bound => (Collection.mapping bound).Proper := by
  induction entries generalizing bound with
  | nil => exact yields_pure h
  | cons e rest ih =>
    refine (yields_key e.1).bind fun key _ => (yields_item e.2).bind fun item hitem => ih ?_
    refine ⟨h.1.put key item, fun x hx => ?_⟩
    rcases Bindings.of_mem_put hx with hx | ⟨hvalue, -⟩
    · exact h.2 x hx
    · rw [hvalue]
      exact hitem

theorem yields_mapping (id : NodeId) :
    (mapping id).Yields fun bound => (Collection.mapping bound).Proper := by
  unfold mapping
  refine yields_get.bind fun b hb => ?_
  have hempty : (Collection.mapping []).Proper := ⟨.nil, fun _ he => absurd he List.not_mem_nil⟩
  have hnodes (nodes : Nodes) : { b with nodes }.Proper := ⟨hb.graph, hb.items⟩
  have hrest : (liftM (included id b.nodes) >>= fun nodes => set { b with nodes } >>= fun _ =>
      bindings [] (nodes.entries id) : Builder (Bindings Item)).Yields
        fun bound => (Collection.mapping bound).Proper :=
    (yields_lift (Q := fun _ => True) fun _ _ => trivial).bind fun nodes _ =>
      (yields_set (hnodes nodes)).bind fun _ _ => yields_bindings hempty _
  split
  · exact yields_throw_bind _
  · exact hrest

/-- A node becomes a collection that binds each key once. -/
theorem yields_filled (id : NodeId) : (filled id).Yields Collection.Proper := by
  have hlisted : (listed id).Yields fun _ => True := by
    unfold listed
    refine yields_get.bind fun b _ => ?_
    split
    · exact yields_pure trivial
    · exact yields_throw _
  have hpair (id : NodeId) : (pair id).Yields fun _ => True := by
    unfold pair
    refine yields_get.bind fun b _ => ?_
    split
    · exact (yields_item _).bind fun _ _ => (yields_item _).bind fun _ _ => yields_pure trivial
    · exact yields_throw _
  unfold filled
  refine yields_get.bind fun b _ => ?_
  split
  · exact hlisted.bind fun ids _ => (yields_mapM yields_item ids).bind fun _ _ =>
      yields_pure trivial
  · exact hlisted.bind fun ids _ => (yields_mapM hpair ids).bind fun _ _ => yields_pure trivial
  · exact (yields_mapping id).bind fun _ _ => yields_pure trivial
  · exact (yields_mapping id).bind fun bound hbound => yields_pure hbound

theorem yields_fillAll (fuel : Nat) : (fillAll fuel).Yields fun _ => True := by
  induction fuel with
  | zero => exact yields_pure trivial
  | succ fuel ih =>
    unfold fillAll
    refine yields_get.bind fun b hb => ?_
    split
    · exact yields_pure trivial
    · next id place rest _ =>
      have hwaiting : { b with waiting := rest }.Proper := ⟨hb.graph, hb.items⟩
      refine (yields_set hwaiting).bind fun _ _ => (yields_filled id).bind fun c hc => ?_
      refine (yields_modify fun b' hb' => ?_).bind fun _ _ => ih
      exact ⟨hb'.graph.set place hc, hb'.items⟩

end Builder

theorem Nodes.proper_built {nodes : Nodes} {root : NodeId} {graph graph' : Graph} {item : Item}
    (h : graph.Proper) (hbuilt : nodes.built root graph = .ok (item, graph')) :
    graph'.Proper ∧ item.Proper := by
  have hstart : Build.Proper { nodes, items := Array.replicate nodes.size none, graph } := by
    refine ⟨h, fun item hitem => ?_⟩
    cases Array.eq_of_mem_replicate hitem
  have hrun : (Builder.item root >>= fun item => Builder.fillAll nodes.size >>= fun _ =>
      pure item : Builder Item).Yields Item.Proper :=
    (Builder.yields_item root).bind fun item hitem =>
      (Builder.yields_fillAll _).bind fun _ _ => Builder.yields_pure hitem
  unfold Nodes.built at hbuilt
  obtain ⟨⟨item', b⟩, hsteps, hresult⟩ := bind_eq_ok_iff.mp hbuilt
  cases hresult
  obtain ⟨hb, hitem⟩ := hrun _ _ _ hstart hsteps
  exact ⟨hb.graph, hitem⟩

/-- The documents as values, where they are trees. -/
def Documents.values (ds : Documents) : List Value :=
  ds.roots.map (ds.graph.treeValue (ds.graph.places.size + 1))

/-- Documents whose mappings bind each key once. -/
structure Documents.Proper (ds : Documents) : Prop where
  graph : ds.graph.Proper
  roots : ∀ root ∈ ds.roots, root.Proper

theorem Documents.Proper.entries {ds : Documents} (h : ds.Proper) {entries : Entries}
    (hentries : .mapping entries ∈ ds.values) : entries.Proper := by
  obtain ⟨root, hroot, hvalue⟩ := List.mem_map.mp hentries
  exact Graph.proper_treeValue h.graph (h.roots root hroot) hvalue

theorem proper_documentsFrom {fuel : Nat} {r : Reading} {ds ds' : Documents} (h : ds.Proper)
    (hread : documentsFrom fuel r ds = .ok ds') : ds'.Proper := by
  induction fuel generalizing r ds with
  | zero =>
    cases hread
    exact h
  | succ fuel ih =>
    unfold documentsFrom at hread
    obtain ⟨⟨root?, r'⟩, -, hread⟩ := bind_eq_ok_iff.mp hread
    cases root? with
    | none =>
      cases hread
      exact h
    | some root =>
      obtain ⟨⟨item, graph⟩, hbuilt, hread⟩ := bind_eq_ok_iff.mp hread
      obtain ⟨hgraph, hitem⟩ := Nodes.proper_built h.graph hbuilt
      refine ih ⟨hgraph, fun root hroot => ?_⟩ hread
      rcases List.mem_append.mp hroot with hroot | hroot
      · exact h.roots root hroot
      · rw [List.mem_singleton.mp hroot]
        exact hitem

/-- The documents of a text bind each key once. -/
theorem proper_documents {s : Source} {ds : Documents} (h : s.documents = .ok ds) : ds.Proper := by
  have hnone : Documents.Proper {} :=
    ⟨fun c hc => absurd hc (Array.not_mem_empty c), fun root hroot => absurd hroot List.not_mem_nil⟩
  exact proper_documentsFrom hnone h

end Yaml

end RoleSchema
