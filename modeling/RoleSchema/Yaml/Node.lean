import RoleSchema.Yaml.Kind
import RoleSchema.Yaml.Layout

/-!
# Nodes

A document is made of nodes: scalars, lists and mappings, each of a kind. Nodes have numbers, and
collections hold the numbers of what is in them; so an alias stands for the very node with its
anchor, which it may also be a part of. `Reader.node` reads a node from tokens, and
`Reader.document?` the next document.
-/

namespace RoleSchema.Yaml

/-- The number of a node. -/
abbrev NodeId := Nat

/-- What a node is made of. -/
inductive Shape where
  | scalar (content : Content)
  | list (items : List NodeId)
  | mapping (entries : List (NodeId × NodeId))
  deriving DecidableEq, Repr

/-- A node of a document. -/
structure Node where
  kind : Kind
  shape : Shape
  deriving DecidableEq, Repr

/-- A scalar without characters. -/
def Node.empty : Node := ⟨.null, .scalar (.text "")⟩

instance : Inhabited Node := ⟨.empty⟩

/-- How far documents have been read. -/
structure Reading where
  layout : Layout
  /-- All nodes so far, under their numbers. -/
  nodes : Array Node := #[]
  /-- What the handles of tags stand for. -/
  handles : List (String × String) := []
  /-- The nodes with an anchor, in the present document. -/
  anchors : List (String × NodeId) := []

/-- A reader of tokens. -/
abbrev Reader := StateT Reading (Except Fault)

namespace Reader

/-- The next token, which stays; none at the end of the text. -/
def peek? : Reader (Option Token) := do
  let r ← get
  let ready : Except Fault Layout := r.layout.ready
  let layout ← ready
  set { r with layout }
  return layout.queue.head?

/-- Passes over the next token. -/
def skip : Reader Unit := modify fun r => { r with layout := r.layout.take }

/-- Whether the next token is one of some; the end of the text is none of them. -/
def atAny (ts : List Token) : Reader Bool :=
  return match ← peek? with
    | some t => ts.contains t
    | none => false

/-- Passes over a token that must come next. -/
def expect (t : Token) : Reader Unit := do
  if !(← atAny [t]) then throw .malformed
  skip

/-- The anchor here, if there is one. No two nodes of a document have the same. -/
def anchor? : Reader (Option String) := do
  match ← peek? with
  | some (.anchor name) => do
    skip
    return some name
  | _ => return none

/-- The tag here, if there is one, written out. -/
def tag? : Reader (Option String) := do
  match ← peek? with
  | some (.tag handle suffix) => do
    skip
    match handle with
    | none => return some suffix
    | some h =>
      match (← get).handles.lookup h with
      | some uri => return some (uri ++ suffix)
      | none => throw .malformed
  | _ => return none

/-- The anchor and the tag here, in either order. -/
def properties : Reader (Option String × Option String) := do
  match ← peek? with
  | some (.tag _ _) => do
    let tag ← tag?
    return (← anchor?, tag)
  | _ => do
    let anchor ← anchor?
    return (anchor, ← tag?)

/-- The kind of a scalar. A lone exclamation mark leaves it to the text. -/
def scalarKind (tag : Option String) (content : Content) (isPlain : Bool) : Kind :=
  match tag with
  | none => if isPlain then .ofContent content else .text
  | some "!" => .ofContent content
  | some t => .ofTag t

/-- The kind of a collection. -/
def collectionKind (tag : Option String) (k : Kind) : Kind :=
  match tag with
  | none | some "!" => k
  | some t => .ofTag t

/-! ## Nodes -/

/-- How deep collections can be in one another. -/
def maxDepth : Nat := 485

/-- Checks how deep a node is. -/
def checkDepth (depth : Nat) : Except Fault Unit :=
  if maxDepth < depth then .error .tooDeep else .ok ()

/-- Adds a node. -/
def add (n : Node) : Reader NodeId := do
  let r ← get
  set { r with nodes := r.nodes.push n }
  return r.nodes.size

/-- Gives an anchor to a node. No two nodes of a document have the same. -/
def anchored (anchor : Option String) (id : NodeId) : Reader Unit := do
  match anchor with
  | none => return
  | some name => do
    if ((← get).anchors.lookup name).isSome then throw .malformed
    modify fun r => { r with anchors := (name, id) :: r.anchors }

/-- Adds a scalar. -/
def scalar (anchor tag : Option String) (content : Content) (isPlain : Bool) : Reader NodeId := do
  let id ← add ⟨scalarKind tag content isPlain, .scalar content⟩
  anchored anchor id
  return id

/-- Adds a collection, the parts of which are read after it has its anchor. -/
def collection {α : Type} (anchor tag : Option String) (k : Kind) (shape : List α → Shape)
    (read : Reader (List α)) : Reader NodeId := do
  let kind := collectionKind tag k
  let id ← add ⟨kind, shape []⟩
  anchored anchor id
  skip
  let parts ← read
  modify fun r => { r with nodes := r.nodes.setIfInBounds id ⟨kind, shape parts⟩ }
  return id

/-- The node that `read` reads, or an empty scalar if one of some tokens comes next. -/
def orEmpty (ts : List Token) (read : Reader NodeId) : Reader NodeId := do
  if ← atAny ts then add .empty else read

/-- Reads a node without content, which must have an anchor or a tag. -/
def empty (anchor tag : Option String) : Reader NodeId := do
  if anchor.isNone && tag.isNone then throw .malformed
  scalar anchor tag (.text "") true

mutual

/-- Reads a node that is in `depth` others. In block form it may be a collection that the
indentation shows; where a dash need not be indented, it may be a list without indentation. -/
def node : Nat → Nat → Bool → Bool → Reader NodeId
  | 0, _, _, _ => throw .malformed
  | fuel + 1, depth, inBlock, allowsDashes => do
    let deep : Except Fault Unit := checkDepth depth
    deep
    match ← peek? with
    | some (.alias name) => do
      skip
      match (← get).anchors.lookup name with
      | some id => return id
      | none => throw .malformed
    | _ => do
      let (anchor, tag) ← properties
      content fuel (depth + 1) inBlock allowsDashes anchor tag

/-- Reads the content of a node after its anchor and its tag. -/
def content : Nat → Nat → Bool → Bool → Option String → Option String → Reader NodeId
  | 0, _, _, _, _, _ => throw .malformed
  | fuel + 1, depth, inBlock, allowsDashes, anchor, tag => do
    match ← peek? with
    | some .entry => do
      if !allowsDashes then empty anchor tag
      else collection anchor tag .list .list (dashes fuel depth true)
    | some (.scalar text isPlain) => do
      skip
      scalar anchor tag text isPlain
    | some .flowSequenceStart => collection anchor tag .list .list (flowItems fuel depth true)
    | some .flowMappingStart =>
      collection anchor tag .mapping .mapping (flowEntries fuel depth true)
    | some .sequenceStart =>
      if inBlock then collection anchor tag .list .list (items fuel depth) else throw .malformed
    | some .mappingStart =>
      if inBlock then collection anchor tag .mapping .mapping (entries fuel depth)
      else throw .malformed
    | _ => empty anchor tag

/-- Reads the items of an indented list to its end. -/
def items : Nat → Nat → Reader (List NodeId)
  | 0, _ => throw .malformed
  | fuel + 1, depth => do
    if ← atAny [.entry] then
      skip
      let n ← orEmpty [.entry, .collectionEnd] (node fuel depth true false)
      return n :: (← items fuel depth)
    expect .collectionEnd
    return []

/-- Reads the items of a list without indentation; the first dash has been passed over. -/
def dashes : Nat → Nat → Bool → Reader (List NodeId)
  | 0, _, _ => throw .malformed
  | fuel + 1, depth, isFirst => do
    if !isFirst then
      if ← atAny [.entry] then skip else return []
    let n ← orEmpty [.entry, .key, .value, .collectionEnd] (node fuel depth true false)
    return n :: (← dashes fuel depth false)

/-- Reads the entries of an indented mapping to its end. -/
def entries : Nat → Nat → Reader (List (NodeId × NodeId))
  | 0, _ => throw .malformed
  | fuel + 1, depth => do
    if ← atAny [.key] then
      skip
      let k ← orEmpty [.key, .value, .collectionEnd] (node fuel depth true true)
      let v ← if ← atAny [.value] then do
          skip
          orEmpty [.key, .value, .collectionEnd] (node fuel depth true true)
        else add .empty
      return (k, v) :: (← entries fuel depth)
    expect .collectionEnd
    return []

/-- Reads the value of an entry between brackets, which ends before one of some tokens. -/
def flowValue : Nat → Nat → List Token → Reader NodeId
  | 0, _, _ => throw .malformed
  | fuel + 1, depth, ends => do
    if ← atAny [.value] then
      skip
      orEmpty ends (node fuel depth false false)
    else add .empty

/-- Reads the items of a list between brackets to its end. -/
def flowItems : Nat → Nat → Bool → Reader (List NodeId)
  | 0, _, _ => throw .malformed
  | fuel + 1, depth, isFirst => do
    if ← atAny [.flowSequenceEnd] then
      skip
      return []
    if !isFirst then expect .flowEntry
    if ← atAny [.key] then
      let n ← collection none none .mapping .mapping (pair fuel depth)
      return n :: (← flowItems fuel depth false)
    if ← atAny [.flowSequenceEnd] then
      skip
      return []
    let n ← node fuel depth false false
    return n :: (← flowItems fuel depth false)

/-- Reads the one entry of a mapping that is an item between brackets. -/
def pair : Nat → Nat → Reader (List (NodeId × NodeId))
  | 0, _ => throw .malformed
  | fuel + 1, depth => do
    let ends := [.flowEntry, .flowSequenceEnd]
    let k ← orEmpty (.value :: ends) (node fuel (depth + 1) false false)
    return [(k, ← flowValue fuel (depth + 1) ends)]

/-- Reads the entries of a mapping between brackets to its end. -/
def flowEntries : Nat → Nat → Bool → Reader (List (NodeId × NodeId))
  | 0, _, _ => throw .malformed
  | fuel + 1, depth, isFirst => do
    if ← atAny [.flowMappingEnd] then
      skip
      return []
    if !isFirst then expect .flowEntry
    if ← atAny [.key] then
      skip
      let k ← orEmpty [.value, .flowEntry, .flowMappingEnd] (node fuel depth false false)
      let v ← flowValue fuel depth [.flowEntry, .flowMappingEnd]
      return (k, v) :: (← flowEntries fuel depth false)
    if ← atAny [.flowMappingEnd] then
      skip
      return []
    let k ← node fuel depth false false
    return (k, ← add .empty) :: (← flowEntries fuel depth false)

end

/-! ## Documents -/

/-- Reads the directives before a document, given what was declared by those before. At most one
tells the version, of which only the first is known. -/
def directives : Nat → Bool → List (String × String) → Reader (List (String × String))
  | 0, _, handles => pure handles
  | fuel + 1, hasVersion, handles => do
    match ← peek? with
    | some (.directive d) => do
      skip
      match d with
      | .version major => do
        if hasVersion || major != 1 then throw .malformed
        directives fuel true handles
      | .tagHandle handle uri => do
        if (handles.lookup handle).isSome then throw .malformed
        directives fuel hasVersion ((handle, uri) :: handles)
      | .other => directives fuel hasVersion handles
    | _ => return handles

/-- The handles that every document has. -/
def knownHandles : List (String × String) := [("!", "!"), ("!!", "tag:yaml.org,2002:")]

/-- Whether a document without content ends here. -/
def atDocumentEnd : Reader Bool := do
  match ← peek? with
  | none | some (.directive _) | some .documentStart | some .documentEnd => return true
  | _ => return false

/-- Passes over the marks at the end of documents. -/
def skipEnds : Nat → Reader Unit
  | 0 => pure ()
  | fuel + 1 => do
    if ← atAny [.documentEnd] then
      skip
      skipEnds fuel

/-- Reads what announces a document; none at the end of the text. -/
def announced (fuel : Nat) : Reader (Option (List (String × String))) := do
  skipEnds fuel
  match ← peek? with
  | none => return none
  | some _ => do
    let handles ← directives fuel false []
    expect .documentStart
    return some handles

/-- Reads one document after what announces it, and what comes behind it as far as it must be known
that the document ends there. -/
def document (fuel : Nat) (mayBeEmpty : Bool) (handles : List (String × String)) :
    Reader NodeId := do
  modify fun r => { r with handles := handles ++ knownHandles, anchors := [] }
  let root ← if mayBeEmpty && (← atDocumentEnd) then add .empty else node fuel 0 true false
  if ← atAny [.documentEnd] then skip
  return root

/-- Reads the next document; none at the end of the text. The first one need not be announced. -/
def document? (fuel : Nat) (isFirst : Bool) : Reader (Option NodeId) := do
  let bare ← if isFirst then
      match ← peek? with
      | none | some (.directive _) | some .documentStart => pure false
      | some _ => pure true
    else pure false
  if bare then return some (← document fuel false [])
  match ← announced fuel with
  | none => return none
  | some handles => return some (← document fuel true handles)

end Reader

end RoleSchema.Yaml
