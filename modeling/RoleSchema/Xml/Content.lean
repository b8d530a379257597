import RoleSchema.Xml.Namespace

/-!
# Content

Content is read item by item onto a stack of the elements that are open. A reference to an entity
adds the elements of its text, which must be complete.
-/

namespace RoleSchema.Xml

/-- An element that is open. -/
structure OpenElement where
  /-- Its name as it is written. -/
  written : String
  name : Name
  attributes : List (Name × String)
  scope : Scope
  /-- The children so far, the last one first. -/
  children : List Element

/-- The elements that are open, the innermost first, and those that are complete outside of them,
the last one first. -/
structure Nest where
  inner : List OpenElement
  outer : List Element
  /-- The scope outside all open elements. -/
  scope : Scope
  /-- The bytes that the entities so far come to. -/
  grown : Nat := 0

namespace Nest

/-- The scope in which the next tag is read. -/
def currentScope (n : Nest) : Scope :=
  match n.inner with
  | [] => n.scope
  | o :: _ => o.scope

/-- Adds complete elements, in their order. -/
def add (n : Nest) (es : List Element) : Nest :=
  match n.inner with
  | [] => { n with outer := es.reverse ++ n.outer }
  | o :: os => { n with inner := { o with children := es.reverse ++ o.children } :: os }

/-- Takes an item whose text begins at `place`; `expand` gives the elements of an entity. -/
def take (d : Declarations) (opened : List String)
    (expand : Scope → String → Except Problem (List Element)) (place : List Char) (n : Nest) :
    Item → Except Fault Nest
  | .text | .aside => .ok n
  | .reference (.character number) =>
    match charOfNumber? number with
    | some _ => .ok n
    | none => .error ⟨.badCharacterNumber, place⟩
  | .reference (.entity name) =>
    if (predefinedEntity? name).isSome then .ok n
    else
      match expand n.currentScope name with
      | .ok es => .ok (n.add es)
      | .error p => .error ⟨p, place⟩
  | .start t => do
    let r ← d.resolve opened n.currentScope place t
    if t.isWhole then return n.add [⟨r.name, r.attributes, []⟩]
    return { n with inner := ⟨t.name.text, r.name, r.attributes, r.scope, []⟩ :: n.inner }
  | .close name at_ =>
    match n.inner with
    | [] => .error ⟨.asynchronousEntity, place⟩
    | o :: os =>
      if o.written = name then
        .ok ({ n with inner := os }.add [⟨o.name, o.attributes, o.children.reverse⟩])
      else .error ⟨.mismatchedTag, at_⟩

/-- Reads items until a root element is complete; every item has some text, so the length of the
text bounds their number. -/
def readRoot (a : Alphabet) (step : List Char → Nest → Item → Except Fault Nest) :
    Nat → Nest → List Char → Except Fault (Nest × List Char)
  | 0, _, _ | _ + 1, _, [] => .error ⟨.noElement, []⟩
  | fuel + 1, n, text => do
    let (item, rest) ← Item.scan a text
    let n ← step text n item
    if n.inner.isEmpty then return (n, rest)
    readRoot a step fuel n rest

/-- Reads all items of the text of an entity. -/
def readAll (step : List Char → Nest → Item → Except Fault Nest) :
    Nat → Nest → List Char → Except Fault (List Element)
  | 0, n, _ | _ + 1, n, [] =>
    if n.inner.isEmpty then .ok n.outer.reverse else .error ⟨.asynchronousEntity, []⟩
  | fuel + 1, n, text => do
    let (item, rest) ← Item.scan .standard text
    let n ← step text n item
    readAll step fuel n rest

end Nest

namespace Declarations

/-- The elements of an entity in a scope, where the entities `opened` are being replaced already. No
entity opens within itself, so their number bounds the depth. -/
def expand (d : Declarations) : Nat → List String → Scope → String → Except Problem (List Element)
  | 0, _, _, _ => .error .recursiveReference
  | depth + 1, opened, scope, name =>
    let unknown := Problem.undefinedEntity (" &" ++ name ++ ";")
    match d.entity? name with
    | none => .error (if d.isComplete then .undefinedEntity "" else unknown)
    | some e =>
      if opened.contains name then .error .recursiveReference
      else
        match e with
        | .unparsed => .error .binaryReference
        | .external => .error unknown
        | .internal text =>
          let opened := name :: opened
          let step := Nest.take d opened (d.expand depth opened)
          (Nest.readAll step (text.length + 1) ⟨[], [], scope, 0⟩ text).mapError Fault.problem

/-- The bytes that the entities in an item come to. -/
def growthOf (d : Declarations) : Item → Nat
  | .reference r => d.growth [⟨.reference r, []⟩]
  | .start t => t.attributes.foldl (fun n a => n + d.growth a.value) 0
  | _ => 0

/-- Takes an item of the document, as long as its entities do not come to too much. -/
def step (d : Declarations) (place : List Char) (n : Nest) (item : Item) : Except Fault Nest := do
  let n := { n with grown := n.grown + d.growthOf item }
  if n.grown > d.allowance then throw ⟨.overgrown, place⟩
  n.take d [] (d.expand (d.entities.length + 1) []) place item

/-- Reads the root element, with which a text begins. -/
def root (d : Declarations) (a : Alphabet) (text : List Char) :
    Except Fault (Element × List Char) := do
  let (n, rest) ← Nest.readRoot a d.step (text.length + 1) ⟨[], [], .initial, 0⟩ text
  match n.outer with
  | e :: _ => return (e, rest)
  | [] => throw ⟨.noElement, rest⟩

end Declarations

end RoleSchema.Xml
