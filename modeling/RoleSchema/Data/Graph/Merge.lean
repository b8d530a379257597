import RoleSchema.Data.Graph.Basic
import RoleSchema.Data.Merge

/-!
# Merging in graphs

Merging follows the rules of `Entries.merge`, but a mapping that stands in several places is changed
in all of them. So a mapping may grow while it is merged into another one, which stops the merge,
and a merge of mappings within themselves does not come to an end.
-/

namespace RoleSchema

/-- Why a merge stops. -/
inductive MergeFault where
  /-- A key is no text. -/
  | keyNotText (key : Value)
  /-- An integer is too long to be told of. -/
  | unshowable
  /-- A mapping has grown while it was merged into another one. -/
  | resized
  | tooDeep
  deriving Repr

/-- The wording of a fault. -/
def MergeFault.message : MergeFault → String
  | .keyNotText (.bytes _) => "startswith first arg must be bytes or a tuple of bytes, not str"
  | .keyNotText key => "'" ++ key.sortName ++ "' object has no attribute 'startswith'"
  | .unshowable =>
    "Exceeds the limit (" ++ toString Text.maxDigits ++ " digits) for integer string conversion" ++
      "; use sys.set_int_max_str_digits() to increase the limit"
  | .resized => "dictionary changed size during iteration"
  | .tooDeep => "maximum recursion depth exceeded"

/-- What merging in a graph has come to. -/
structure GraphMerge where
  graph : Graph
  /-- The lines that tell of the keys that were bound. -/
  lines : List String := []
  fault : Option MergeFault := none

namespace GraphMerge

/-- Stops a merge. -/
def stop (m : GraphMerge) (fault : MergeFault) : GraphMerge := { m with fault := some fault }

/-- Binds a key of the mapping at a place, and tells of it. -/
def bind (m : GraphMerge) (place : Nat) (key : Value) (item : Item) : GraphMerge :=
  let graph := m.graph.bind place key item
  if graph.isShowable item then
    { m with graph, lines := m.lines ++ [overrideLine key (graph.inMessage item)] }
  else { m with graph, fault := some .unshowable }

/-- How deep mappings that are merged can be in one another. -/
def maxDepth : Nat := 980

mutual

/-- Merges the mapping at one place into that at another, both of which are in `depth` others. The
first argument bounds the number of steps. -/
def mergeWithin : Nat → Nat → Nat → Nat → GraphMerge → GraphMerge
  | 0, _, _, _, m => m.stop .tooDeep
  | fuel + 1, depth, base, layer, m =>
    if maxDepth < depth then m.stop .tooDeep
    else mergeFrom fuel depth base layer 0 (m.graph.bindings layer).length m

/-- Goes on with the entry with an index, of a mapping that had some size at the beginning. -/
def mergeFrom : Nat → Nat → Nat → Nat → Nat → Nat → GraphMerge → GraphMerge
  | 0, _, _, _, _, _, m => m.stop .tooDeep
  | fuel + 1, depth, base, layer, index, size, m =>
    let entries := m.graph.bindings layer
    if entries.length ≠ size then m.stop .resized
    else
      match entries[index]? with
      | none => m
      | some (key, item) =>
        if !key.isText then m.stop (.keyNotText key)
        else if key.isRemark then mergeFrom fuel depth base layer (index + 1) size m
        else
          let bound := (m.graph.bindings base).get? key
          let m := match bound.bind m.graph.mappingAt?, m.graph.mappingAt? item with
            | some inner, some below => mergeWithin fuel (depth + 1) inner below m
            | _, _ => m.bind base key item
          if m.fault.isSome then m else mergeFrom fuel depth base layer (index + 1) size m

end

/-- The number of steps after which a merge is given up. -/
def maxSteps : Nat := 10000000

end GraphMerge

/-- Merges the mapping at one place into that at another. -/
def Graph.merge (g : Graph) (base layer : Nat) : GraphMerge :=
  GraphMerge.mergeWithin GraphMerge.maxSteps 0 base layer { graph := g }

end RoleSchema
