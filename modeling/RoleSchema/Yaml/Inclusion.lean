import RoleSchema.Yaml.Node

/-!
# Mappings within mappings

Under the key `<<` a mapping takes in the entries of another one, or of those in a list, of which
the first binds. `included` puts these entries before the mapping's own. A node that is in several
places is changed in all of them, and it may take in what it is a part of.
-/

namespace RoleSchema.Yaml

/-- The nodes of a document under their numbers. -/
abbrev Nodes := Array Node

namespace Nodes

/-- The node with a number. -/
def node (nodes : Nodes) (id : NodeId) : Node := nodes.getD id default

/-- The entries of a node; those of a scalar or a list are none. -/
def entries (nodes : Nodes) (id : NodeId) : List (NodeId × NodeId) :=
  match (nodes.node id).shape with
  | .mapping entries => entries
  | _ => []

/-- The nodes with other entries of one of them. -/
def withEntries (nodes : Nodes) (id : NodeId) (entries : List (NodeId × NodeId)) : Nodes :=
  nodes.setIfInBounds id { nodes.node id with shape := .mapping entries }

/-- The nodes with another kind of one of them. -/
def withKind (nodes : Nodes) (id : NodeId) (kind : Kind) : Nodes :=
  nodes.setIfInBounds id { nodes.node id with kind }

/-- Whether a node is a mapping. -/
def isMapping (nodes : Nodes) (id : NodeId) : Bool :=
  match (nodes.node id).shape with
  | .mapping _ => true
  | _ => false

end Nodes

/-- How deep mappings can take in one another. -/
def maxInclusion : Nat := 980

mutual

/-- Takes in the entries of other mappings; `depth` others take in this one. The first argument
bounds the number of steps. -/
def includedWithin : Nat → Nat → NodeId → Nodes → Except Fault Nodes
  | 0, _, _, _ => .error .tooDeep
  | fuel + 1, depth, id, nodes =>
    if maxInclusion < depth then .error .tooDeep else includedFrom fuel depth id 0 [] nodes

/-- Takes in the entries of other mappings, from the entry with an index on; `taken` are those that
have been taken in so far. A key that stands for the value of the mapping becomes a text. -/
def includedFrom :
    Nat → Nat → NodeId → Nat → List (NodeId × NodeId) → Nodes → Except Fault Nodes
  | 0, _, _, _, _, _ => .error .tooDeep
  | fuel + 1, depth, id, index, taken, nodes =>
    match (nodes.entries id)[index]? with
    | none => .ok (nodes.withEntries id (taken ++ nodes.entries id))
    | some (key, value) =>
      match (nodes.node key).kind with
      | .merge => do
        let nodes := nodes.withEntries id ((nodes.entries id).eraseIdx index)
        let sources ← match (nodes.node value).shape with
          | .mapping _ => pure [value]
          | .list items => pure items
          | .scalar _ => throw .malformed
        let nodes ← allIncluded fuel depth sources nodes
        includedFrom fuel depth id index (taken ++ sources.reverse.flatMap nodes.entries) nodes
      | .default => includedFrom fuel depth id (index + 1) taken (nodes.withKind key .text)
      | _ => includedFrom fuel depth id (index + 1) taken nodes

/-- Lets several mappings take in the entries of others. -/
def allIncluded : Nat → Nat → List NodeId → Nodes → Except Fault Nodes
  | _, _, [], nodes => .ok nodes
  | 0, _, _ :: _, _ => .error .tooDeep
  | fuel + 1, depth, id :: rest, nodes => do
    if !nodes.isMapping id then throw .malformed
    allIncluded fuel depth rest (← includedWithin fuel (depth + 1) id nodes)

end

/-- The number of steps after which taking in is given up. -/
def inclusionSteps : Nat := 10000000

/-- The nodes after a mapping has taken in the entries of others. -/
def included (id : NodeId) (nodes : Nodes) : Except Fault Nodes :=
  if nodes.isMapping id then includedWithin inclusionSteps 0 id nodes else .ok nodes

end RoleSchema.Yaml
