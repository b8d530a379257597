import RoleSchema.Data.Value

/-!
# Graphs of values

In documents with aliases one collection can be in several others, and even in itself. A graph holds
collections at places; an item of a collection is a value without parts, or the place of another
collection. `Graph.nested` shows an item, with dots for a collection within itself, and
`Graph.valuesTo` are the values of the places, up to some depth.
-/

namespace RoleSchema

/-- What a collection holds: a value without parts, or the collection at a place. -/
inductive Item where
  | value (v : Value)
  | place (n : Nat)
  deriving Repr, Inhabited

/-- A collection. -/
inductive Collection where
  | list (items : List Item)
  | pairs (items : List (Item × Item))
  | set (items : List Value)
  | mapping (entries : Bindings Item)
  deriving Repr

instance : Inhabited Collection := ⟨.list []⟩

/-- Collections at their places. -/
structure Graph where
  places : Array Collection := #[]
  deriving Repr

namespace Collection

/-- The items of a collection. -/
def items : Collection → List Item
  | .list items => items
  | .pairs items => items.flatMap fun p => [p.1, p.2]
  | .set _ => []
  | .mapping entries => entries.map Prod.snd

/-- Whether a collection is empty. -/
def isEmpty : Collection → Bool
  | .list items => items.isEmpty
  | .pairs items => items.isEmpty
  | .set items => items.isEmpty
  | .mapping entries => entries.isEmpty

/-- The value of a collection, given those of the items. -/
def value (of : Item → Value) : Collection → Value
  | .list items => .list (items.map of)
  | .pairs items => .pairs (items.map fun p => (of p.1, of p.2))
  | .set items => .set items
  | .mapping entries => .mapping (entries.map fun e => (e.1, of e.2))

end Collection

namespace Item

/-- The place of a collection. -/
def place? : Item → Option Nat
  | .value _ => none
  | .place n => some n

end Item

namespace Graph

/-- The collection at a place. -/
def get (g : Graph) (place : Nat) : Collection := g.places.getD place default

/-- The graph with another collection at a place. -/
def set (g : Graph) (place : Nat) (c : Collection) : Graph := ⟨g.places.setIfInBounds place c⟩

/-- The bindings of the mapping at a place; those of another collection are none. -/
def bindings (g : Graph) (place : Nat) : Bindings Item :=
  match g.get place with
  | .mapping entries => entries
  | _ => []

/-- Whether an item says nothing: null, false, zero, or without contents. -/
def isEmpty (g : Graph) : Item → Bool
  | .value v => v.isEmpty
  | .place n => (g.get n).isEmpty

/-- The place of the mapping that an item is. -/
def mappingAt? (g : Graph) : Item → Option Nat
  | .value _ => none
  | .place n =>
    match g.get n with
    | .mapping _ => some n
    | _ => none

/-- The graph with another collection, and its place. -/
def push (g : Graph) (c : Collection) : Graph × Nat := (⟨g.places.push c⟩, g.places.size)

/-- Binds a key of the mapping at a place. -/
def bind (g : Graph) (place : Nat) (key : Value) (item : Item) : Graph :=
  g.set place (.mapping ((g.bindings place).put key item))

/-! ## Values -/

/-- What sort of value an item is: the value that it would be with nothing in what it holds. -/
def outline (g : Graph) : Item → Value
  | .value v => v
  | .place n => (g.get n).value fun _ => .null

/-- The values of the places, cut off at some depth, where collections are taken to be empty. -/
def valuesTo (g : Graph) : Nat → Array Value
  | 0 => g.places.map (Collection.value g.outline)
  | depth + 1 =>
    let below := valuesTo g depth
    g.places.map (Collection.value fun
      | .value v => v
      | .place n => below.getD n .null)

/-- The value of an item, given those of the places. -/
def valueOf (values : Array Value) : Item → Value
  | .value v => v
  | .place n => values.getD n .null

/-- How often each place is an item of a collection or one of some others. -/
def references (g : Graph) (roots : List Item) : Array Nat :=
  let all := roots.filterMap Item.place? ++
    g.places.toList.flatMap fun c => c.items.filterMap Item.place?
  all.foldl (fun counts n => counts.modify n (· + 1)) (Array.replicate g.places.size 0)

/-- Whether no collection is in two others, or in itself. -/
def isTree (g : Graph) (roots : List Item) : Bool := (g.references roots).all (· ≤ 1)

/-- The value of an item in a graph where no collection is in itself. The first argument bounds the
depth; the number of places is enough. -/
def treeValue (g : Graph) : Nat → Item → Value
  | _, .value v => v
  | 0, .place _ => .null
  | n + 1, .place p => (g.get p).value (treeValue g n)

mutual

/-- Adds a value to a graph. -/
def addValue (g : Graph) : Value → Graph × Item
  | .list items =>
    let (g, items) := addValues g items
    (⟨g.places.push (.list items)⟩, .place g.places.size)
  | .pairs items =>
    let (g, items) := addPairs g items
    (⟨g.places.push (.pairs items)⟩, .place g.places.size)
  | .set items => (⟨g.places.push (.set items)⟩, .place g.places.size)
  | .mapping entries =>
    let (g, entries) := addEntries g entries
    (⟨g.places.push (.mapping entries)⟩, .place g.places.size)
  | v => (g, .value v)

/-- Adds values to a graph. -/
def addValues (g : Graph) : List Value → Graph × List Item
  | [] => (g, [])
  | v :: rest =>
    let (g, item) := addValue g v
    let (g, items) := addValues g rest
    (g, item :: items)

/-- Adds pairs of values to a graph. -/
def addPairs (g : Graph) : List (Value × Value) → Graph × List (Item × Item)
  | [] => (g, [])
  | (a, b) :: rest =>
    let (g, first) := addValue g a
    let (g, second) := addValue g b
    let (g, items) := addPairs g rest
    (g, (first, second) :: items)

/-- Adds the values of entries to a graph. -/
def addEntries (g : Graph) : List (Value × Value) → Graph × Bindings Item
  | [] => (g, [])
  | (k, v) :: rest =>
    let (g, item) := addValue g v
    let (g, items) := addEntries g rest
    (g, (k, item) :: items)

end

/-- A graph with another one added, and the item of that there. -/
def append (g other : Graph) : Graph × (Item → Item) :=
  let moved : Item → Item
    | .value v => .value v
    | .place n => .place (g.places.size + n)
  let shift : Collection → Collection
    | .list items => .list (items.map moved)
    | .pairs items => .pairs (items.map fun p => (moved p.1, moved p.2))
    | .set items => .set items
    | .mapping entries => .mapping (entries.map fun e => (e.1, moved e.2))
  (⟨g.places ++ other.places.map shift⟩, moved)

/-! ## Items in messages -/

/-- An item inside a collection; `above` are the places that it is in. The first argument bounds the
depth; one more than the number of places is enough. -/
def nested (g : Graph) : Nat → List Nat → Item → String
  | _, _, .value v => v.nested
  | 0, _, .place _ => ""
  | fuel + 1, above, .place n =>
    let inside := nested g fuel (n :: above)
    match g.get n with
    | .list items =>
      if above.contains n then "[...]" else Value.enclosed "[" "]" (items.map inside)
    | .pairs items =>
      if above.contains n then "[...]"
      else
        Value.enclosed "[" "]" (items.map fun p => Value.enclosed "(" ")" [inside p.1, inside p.2])
    | .set items => Value.setText (items.map Value.nested)
    | .mapping entries =>
      if above.contains n then "\x7b...\x7d"
      else
        Value.enclosed "\x7b" "\x7d" (entries.map fun e => e.1.nested ++ ": " ++ inside e.2)

/-- An item on its own. -/
def inMessage (g : Graph) : Item → String
  | .value v => v.inMessage
  | item => g.nested (g.places.size + 1) [] item

/-- Whether the items without parts in a collection can be shown. -/
def isPlainShowable (c : Collection) : Bool :=
  (c.value fun
    | .value v => v
    | .place _ => .null).isShowable

/-- Whether an item can be shown; `seen` are the places already looked at. The first argument bounds
the number of steps. -/
def showableWithin (g : Graph) : Nat → List Nat → List Item → Bool
  | 0, _, _ => true
  | _, _, [] => true
  | n + 1, seen, .value v :: rest => v.isShowable && showableWithin g n seen rest
  | n + 1, seen, .place p :: rest =>
    if seen.contains p then showableWithin g n seen rest
    else isPlainShowable (g.get p) && showableWithin g n (p :: seen) ((g.get p).items ++ rest)

/-- Whether an item can be shown: no integer in it is too long. -/
def isShowable (g : Graph) (item : Item) : Bool :=
  let size := g.places.foldl (fun n c => n + c.items.length + 1) 0
  g.showableWithin (size + 1) [] [item]

end Graph

end RoleSchema
