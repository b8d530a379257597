import RoleSchema.Data.Graph.Basic
import RoleSchema.Yaml.Inclusion
import RoleSchema.Yaml.ScalarValue
import RoleSchema.Yaml.Source

/-!
# Documents of settings

`Source.documents` reads the documents of a text. The nodes of a document become items of a graph
of values: a scalar becomes a value, and a collection a place, which is filled after all collections
that were found before it. So a node that stands in several places is one item. A document is built
before the next one is read.
-/

namespace RoleSchema.Yaml

/-- What has been built of the nodes of a document. -/
structure Build where
  nodes : Nodes
  /-- The items that nodes have become. -/
  items : Array (Option Item)
  /-- The collections that are still empty, each with its place, in the order of filling. -/
  waiting : List (NodeId × Nat) := []
  graph : Graph

/-- A step of building. -/
abbrev Builder := StateT Build (Except Fault)

namespace Nodes

/-- The content of a node. That of a mapping is the content of its value that stands for itself. The
first argument bounds the depth. -/
def content (nodes : Nodes) : Nat → NodeId → Except Fault Content
  | 0, _ => .error .tooDeep
  | fuel + 1, id =>
    match (nodes.node id).shape with
    | .scalar c => .ok c
    | .list _ => .error .malformed
    | .mapping entries =>
      match entries.find? fun e => (nodes.node e.1).kind == .default with
      | some (_, value) => content nodes fuel value
      | none => .error .malformed

/-- The value of a node that is no collection. -/
def value (nodes : Nodes) (id : NodeId) : Except Fault Value := do
  let kind := (nodes.node id).kind
  if let .unknown tag := kind then throw (.unknownTag tag)
  let content ← nodes.content maxInclusion id
  if kind = .time && nodes.isMapping id then throw .timeNotText
  scalarValue kind content

end Nodes

/-- The collection that a node of a kind begins as. -/
def emptyOf? : Kind → Option Collection
  | .list => some (.list [])
  | .mapping => some (.mapping [])
  | .set => some (.set [])
  | .pairs => some (.pairs [])
  | _ => none

namespace Builder

/-- The item that a node becomes. -/
def item (id : NodeId) : Builder Item := do
  let b ← get
  match b.items.getD id none with
  | some item => return item
  | none =>
    match emptyOf? (b.nodes.node id).kind with
    | some c => do
      let place := b.graph.places.size
      set { b with
        items := b.items.setIfInBounds id (some (.place place))
        waiting := b.waiting ++ [(id, place)]
        graph := ⟨b.graph.places.push c⟩ }
      return .place place
    | none => do
      let value : Except Fault Value := b.nodes.value id
      let item := Item.value (← value)
      set { b with items := b.items.setIfInBounds id (some item) }
      return item

/-- The value of a key, which is no collection. -/
def key (id : NodeId) : Builder Value := do
  match ← item id with
  | .value v => return v
  | .place _ => throw .malformed

/-- The bindings that entries become, after others. -/
def bindings (bound : Bindings Item) : List (NodeId × NodeId) → Builder (Bindings Item)
  | [] => return bound
  | (k, v) :: rest => do
    let key ← key k
    let value ← item v
    bindings (bound.put key value) rest

/-- The bindings of a mapping. -/
def mapping (id : NodeId) : Builder (Bindings Item) := do
  let b ← get
  if !b.nodes.isMapping id then throw .malformed
  let included : Except Fault Nodes := included id b.nodes
  let nodes ← included
  set { b with nodes }
  bindings [] (nodes.entries id)

/-- The pair that a mapping of one entry becomes. -/
def pair (id : NodeId) : Builder (Item × Item) := do
  match (← get).nodes.entries id with
  | [(k, v)] => do
    let first ← item k
    return (first, ← item v)
  | _ => throw .malformed

/-- The items of a list. -/
def listed (id : NodeId) : Builder (List NodeId) := do
  match ((← get).nodes.node id).shape with
  | .list items => return items
  | _ => throw .malformed

/-- The collection that a node becomes. -/
def filled (id : NodeId) : Builder Collection := do
  match ((← get).nodes.node id).kind with
  | .list => do return .list (← (← listed id).mapM item)
  | .pairs => do return .pairs (← (← listed id).mapM pair)
  | .set => do return .set ((← mapping id).map Prod.fst)
  | _ => do return .mapping (← mapping id)

/-- Fills the collections that are waiting, and those that are found in them. A node becomes one
collection only, so the number of nodes bounds that of the steps. -/
def fillAll : Nat → Builder Unit
  | 0 => return
  | fuel + 1 => do
    let b ← get
    match b.waiting with
    | [] => return
    | (id, place) :: rest => do
      set { b with waiting := rest }
      let c ← filled id
      modify fun b => { b with graph := b.graph.set place c }
      fillAll fuel

end Builder

/-- The item that a document becomes, in a graph that holds what those before it have become. -/
def Nodes.built (nodes : Nodes) (root : NodeId) (graph : Graph) : Except Fault (Item × Graph) := do
  let start : Build := { nodes, items := Array.replicate nodes.size none, graph }
  let (item, b) ← (do
    let item ← Builder.item root
    Builder.fillAll nodes.size
    return item : Builder Item).run start
  return (item, b.graph)

/-! ## Documents -/

/-- Documents, as items of one graph. -/
structure Documents where
  roots : List Item := []
  graph : Graph := {}
  deriving Repr

/-- Whether no collection stands in two places. -/
def Documents.isTree (ds : Documents) : Bool := ds.graph.isTree ds.roots

/-- Adds the documents that are still to be read. The first argument bounds their number. -/
def documentsFrom : Nat → Reading → Documents → Except Fault Documents
  | 0, _, ds => .ok ds
  | fuel + 1, r, ds => do
    let size := r.layout.cursor.size
    match ← (Reader.document? (4 * size + 8) ds.roots.isEmpty).run { r with nodes := #[] } with
    | (none, _) => return ds
    | (some root, r) => do
      let (item, graph) ← Nodes.built r.nodes root ds.graph
      documentsFrom fuel r ⟨ds.roots ++ [item], graph⟩

/-- The documents of a text. -/
def Source.documents (s : Source) : Except Fault Documents :=
  let cursor := Cursor.ofText s.text
  documentsFrom (cursor.size + 1) { layout := { cursor, torn := s.torn } } {}

end RoleSchema.Yaml
