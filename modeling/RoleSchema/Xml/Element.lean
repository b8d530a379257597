/-!
# Elements

A document as a tree of elements, of which only names, attributes and child elements are kept.
Names are expanded: a name of a namespace and a local one. A step selects children by name; a
namespace that is `*` in a step stands for any.
-/

namespace RoleSchema.Xml

/-- An expanded name. The empty namespace is none. -/
structure Name where
  space : String
  base : String
  deriving DecidableEq, Repr

/-- A name with its namespace in braces. -/
def Name.text (n : Name) : String :=
  if n.space = "" then n.base else "\x7b" ++ n.space ++ "\x7d" ++ n.base

/-- An element. -/
structure Element where
  name : Name
  attributes : List (Name × String)
  children : List Element
  deriving Repr

namespace Element

/-- The value of an attribute that is in no namespace. -/
def attribute? (e : Element) (base : String) : Option String :=
  (e.attributes.find? fun a => a.1.space == "" && a.1.base == base).map Prod.snd

/-- Whether an element has a name in a namespace. -/
def hasName (e : Element) (space base : String) : Bool :=
  space != "" && e.name.space == space && e.name.base == base

/-- Whether a step with a name selects an element. -/
def isSelected (e : Element) (space base : String) : Bool :=
  (space == "*" || e.name.space == space) && e.name.base == base

/-- The children that a step selects. -/
def select (e : Element) (space base : String) : List Element :=
  e.children.filter fun c => c.isSelected space base

/-- The first child that a step selects. -/
def selectFirst? (e : Element) (space base : String) : Option Element :=
  e.children.find? fun c => c.isSelected space base

mutual

/-- An element and all below it, in the order of their start tags. -/
def subtree : Element → List Element
  | ⟨n, as, cs⟩ => ⟨n, as, cs⟩ :: subtrees cs

/-- Elements and all below them. -/
def subtrees : List Element → List Element
  | [] => []
  | e :: es => e.subtree ++ subtrees es

end

/-- All elements below an element. -/
def descendants (e : Element) : List Element := subtrees e.children

end Element

end RoleSchema.Xml
