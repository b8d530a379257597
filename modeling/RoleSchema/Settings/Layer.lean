import RoleSchema.Report.Basic
import RoleSchema.Settings.Fault
import RoleSchema.Yaml.Document

/-!
# Layers of settings

Settings come in layers: the documents of a base file, merged in their order; a document for the
environment that the program runs in; and the variables of the environment. What the layers come to
is checked as a whole. A note is reported for each key that is bound.

Where a mapping stands in several places of a document, it is one mapping also when it is merged
into. Then the layers are put together in a graph; otherwise they are trees.

* `layered`: what the layers come to, given as trees.
* `Draft.layered_tree`: drafts that are trees come to what the trees come to.
-/

namespace RoleSchema.Settings

open Files (Path)

/-- What a line about a key or a file begins with on the console. -/
def lineMark : String := "🔧 "

/-- Reports a line about a layer. -/
def tell (line : String) : Reporting LoadFault Unit := Reporting.note .info line

/-! ## Trees -/

/-- The entries of a mapping with those of another merged in. -/
def merged (base layer : Entries) : Reporting LoadFault Entries :=
  let m := base.merge layer
  let shown := m.bound.takeWhile fun b => b.2.isShowable
  ⟨shown.map fun b => .note .info (lineMark ++ overrideLine b.1 b.2.inMessage),
    if shown.length < m.bound.length then .error (.merging .unshowable)
    else
      match m.stopped with
      | none => .ok m.entries
      | some key => .error (.merging (.keyNotText key))⟩

/-- The entries of a mapping with those of further ones merged in. -/
def mergedAll (base : Entries) : List Entries → Reporting LoadFault Entries
  | [] => pure base
  | layer :: rest => do mergedAll (← merged base layer) rest

/-- The entries of a mapping. -/
def entries? : Value → Option Entries
  | .mapping entries => some entries
  | _ => none

/-- What the documents of the base file come to. Those that say nothing are passed over. -/
def baseEntries (path : Path) (documents : List Value) : Reporting LoadFault Entries :=
  match (documents.filter fun v => !v.isEmpty).mapM entries? with
  | none => Reporting.fail (.notMapping path)
  | some [] => pure []
  | some (first :: rest) => mergedAll first rest

/-- The entries with a document for the environment merged in, where there is one. -/
def withEnvironment (base : Entries) : Option Value → Reporting LoadFault Entries
  | none => pure base
  | some (.mapping layer) => merged base layer
  | some v => Reporting.fail (.environmentNotMapping v)

/-- What overrides have come to, with a line for each variable. -/
def reported {α : Type} (o : Overridden α) : Reporting LoadFault α :=
  ⟨o.applied.map fun v => .note .info (lineMark ++ variableLine v),
    match o.fault with
    | none => .ok o.settings
    | some fault => .error (.overridden fault)⟩

/-- The entries with variables applied. -/
def withVariables (vars : Variables) (base : Entries) : Reporting LoadFault Entries :=
  reported (override vars base)

/-- The settings that entries hold. -/
def checked (codecs : Text.Codecs) (entries : Entries) : Except LoadFault Settings :=
  match Settings.read codecs entries with
  | .valid settings => .ok settings
  | .invalid issues => .error (.invalid issues)
  | .aborted cause => .error (.aborted cause)

/-- What a document for the environment and variables make of the base. -/
def layered (codecs : Text.Codecs) (base : Entries) (document : Option Value) (vars : Variables) :
    Reporting LoadFault Settings := do
  let entries ← withEnvironment base document
  let entries ← withVariables vars entries
  Reporting.ofExcept (checked codecs entries)

/-! ## Graphs -/

/-- A graph with the mapping at one place merged into that at another. -/
def mergedGraph (g : Graph) (base layer : Nat) : Reporting LoadFault Graph :=
  let m := g.merge base layer
  ⟨m.lines.map fun line => .note .info (lineMark ++ line),
    match m.fault with
    | none => .ok m.graph
    | some fault => .error (.merging fault)⟩

/-- A graph with the mappings at further places merged into that at one. -/
def mergedGraphAll (g : Graph) (base : Nat) : List Nat → Reporting LoadFault Graph
  | [] => pure g
  | layer :: rest => do mergedGraphAll (← mergedGraph g base layer) base rest

/-- How deep mappings with settings are in one another. -/
def settingsDepth : Nat := 6

/-- The settings in the mapping at a place, with variables applied. -/
def checkedGraph (codecs : Text.Codecs) (g : Graph) (root : Nat) (vars : Variables) :
    Reporting LoadFault Settings := do
  let g ← reported (overrideGraph vars root g)
  let entries := (entries? (Graph.valueOf (g.valuesTo settingsDepth) (.place root))).getD []
  Reporting.ofExcept (checked codecs entries)

/-! ## Drafts -/

/-- A document, or what some come to: a value, or an item of a graph. -/
inductive Draft where
  | tree (v : Value)
  | shared (graph : Graph) (root : Item)
  deriving Repr

namespace Draft

/-- Whether a draft says nothing. -/
def isEmpty : Draft → Bool
  | .tree v => v.isEmpty
  | .shared g root => g.isEmpty root

/-- The draft as an item of a graph. -/
def inGraph : Draft → Graph × Item
  | .tree v => Graph.addValue {} v
  | .shared g root => (g, root)

/-- The first of some documents. -/
def first? (ds : Yaml.Documents) : Option Draft :=
  ds.roots.head?.map fun root =>
    if ds.isTree then .tree (ds.graph.treeValue (ds.graph.places.size + 1) root)
    else .shared ds.graph root

/-- What the documents of the base file come to. -/
def base (path : Path) (ds : Yaml.Documents) : Reporting LoadFault Draft :=
  if ds.isTree then do
    let entries ← baseEntries path
      (ds.roots.map (ds.graph.treeValue (ds.graph.places.size + 1)))
    return .tree (.mapping entries)
  else
    match (ds.roots.filter fun r => !ds.graph.isEmpty r).mapM ds.graph.mappingAt? with
    | none => Reporting.fail (.notMapping path)
    | some [] => pure (.tree (.mapping []))
    | some (first :: rest) => do
      return .shared (← mergedGraphAll ds.graph first rest) (.place first)

/-- What a document for the environment and variables make of the base, put together in a graph. -/
def layeredGraph (codecs : Text.Codecs) (base : Draft) (document : Option Draft)
    (vars : Variables) : Reporting LoadFault Settings := do
  let (g, root) := base.inGraph
  let place := root.place?.getD 0
  let g ← match document with
    | none => pure g
    | some d => do
      let (other, item) := d.inGraph
      let (g, moved) := g.append other
      match g.mappingAt? (moved item) with
      | some layer => mergedGraph g place layer
      | none => Reporting.fail (.environmentNotMapping (g.outline (moved item)))
  checkedGraph codecs g place vars

/-- What a document for the environment and variables make of the base. -/
def layered (codecs : Text.Codecs) (base : Draft) (document : Option Draft) (vars : Variables) :
    Reporting LoadFault Settings :=
  match base, document with
  | .tree (.mapping entries), none => Settings.layered codecs entries none vars
  | .tree (.mapping entries), some (.tree v) => Settings.layered codecs entries (some v) vars
  | _, _ => layeredGraph codecs base document vars

theorem layered_tree (codecs : Text.Codecs) (entries : Entries) (document : Option Value)
    (vars : Variables) :
    layered codecs (.tree (.mapping entries)) (document.map .tree) vars =
      Settings.layered codecs entries document vars := by
  cases document <;> rfl

end Draft

end RoleSchema.Settings
