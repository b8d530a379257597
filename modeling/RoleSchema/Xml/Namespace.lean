import RoleSchema.Xml.Declaration
import RoleSchema.Xml.Element
import RoleSchema.Xml.Item

/-!
# Namespaces

A start tag binds prefixes to namespaces and is read in the scope of these bindings: the names of
the element and of its attributes become expanded names.
-/

namespace RoleSchema.Xml

/-- The namespaces of prefixes, the innermost binding first. The empty prefix is that of elements
without one, and the empty namespace is none. -/
abbrev Scope := List (String × String)

/-- The namespace that the prefix `xml` always has. -/
def xmlNamespace : String := "http://www.w3.org/XML/1998/namespace"

/-- The namespace that the prefix `xmlns` always has. -/
def xmlnsNamespace : String := "http://www.w3.org/2000/xmlns/"

namespace Scope

/-- The scope of a document. -/
def initial : Scope := [("xml", xmlNamespace)]

/-- Binds a prefix. The two reserved prefixes and namespaces belong to each other alone. -/
def bind (s : Scope) (qualifier uri : String) : Except Problem Scope :=
  if uri = "" && qualifier != "" then .error .undeclaredPrefix
  else if qualifier = "xmlns" then .error .reservedXmlns
  else if uri.toList.contains '\x7d' then .error .unexpectedMarkup
  else if qualifier = "xml" && uri != xmlNamespace then .error .reservedXml
  else if qualifier != "xml" && uri == xmlNamespace then .error .reservedNamespace
  else if uri = xmlnsNamespace then .error .reservedNamespace
  else .ok ((qualifier, uri) :: s)

/-- The expanded name of an element. -/
def elementName (s : Scope) (q : QName) : Except Problem Name :=
  match q.qualifier with
  | none => .ok ⟨(s.lookup "").getD "", q.base⟩
  | some p =>
    match s.lookup p with
    | some uri => .ok ⟨uri, q.base⟩
    | none => .error .unboundPrefix

/-- The expanded name of an attribute. Without a prefix it is in no namespace. -/
def attributeName (s : Scope) (q : QName) : Except Problem Name :=
  match q.qualifier with
  | none => .ok ⟨"", q.base⟩
  | some _ => s.elementName q

end Scope

/-- The prefix that an attribute binds, if it is a binding. -/
def QName.bound? (q : QName) : Option String :=
  match q.qualifier with
  | some "xmlns" => some q.base
  | some _ => none
  | none => if q.base = "xmlns" then some "" else none

/-- A start tag in its scope. -/
structure ResolvedTag where
  name : Name
  attributes : List (Name × String)
  scope : Scope
  deriving Repr

/-- The attributes and the bindings read so far. -/
structure TagState where
  seen : List QName := []
  attributes : List (QName × String) := []
  scope : Scope

namespace TagState

/-- Takes an attribute: a binding extends the scope. -/
def take (t : TagState) (name : QName) (value : String) : Except Problem TagState := do
  match name.bound? with
  | some p => return { t with seen := name :: t.seen, scope := ← t.scope.bind p value }
  | none => return { t with seen := name :: t.seen, attributes := t.attributes ++ [(name, value)] }

end TagState

namespace Declarations

/-- The value of an attribute in the tag of an element, whose text begins at `place`. -/
def attributeValue (d : Declarations) (opened : List String) (place : List Char) (element : QName)
    (a : RawAttribute) : Except Fault String := do
  let text ← d.replacement opened place a.value
  let isText := match d.rule? element a.name with
    | some r => r.isText
    | none => true
  return String.ofList (if isText then text else collapse text)

/-- Takes the written attributes of a tag whose text begins at `place`. -/
def takeWritten (d : Declarations) (opened : List String) (place : List Char) (element : QName)
    (t : TagState) : List RawAttribute → Except Fault TagState
  | [] => .ok t
  | a :: rest => do
    if t.seen.contains a.name then throw ⟨.duplicateAttribute, a.place⟩
    let value ← d.attributeValue opened place element a
    let t ← (t.take a.name value).mapError fun p => ⟨p, place⟩
    d.takeWritten opened place element t rest

/-- Takes the attributes that are not written but have a value by a rule. -/
def takeDefaults (element : QName) (t : TagState) : List AttributeRule → Except Problem TagState
  | [] => .ok t
  | r :: rest =>
    match r.default with
    | some value =>
      if r.element == element && !t.seen.contains r.name then do
        takeDefaults element (← t.take r.name value) rest
      else takeDefaults element t rest
    | none => takeDefaults element t rest

/-- Expands the names of attributes, of which no two may become the same. -/
def expandNames (s : Scope) (before : List (Name × String)) :
    List (QName × String) → Except Problem (List (Name × String))
  | [] => .ok before.reverse
  | (q, value) :: rest => do
    let n ← s.attributeName q
    if n.space ≠ "" && before.any fun a => a.1 == n then throw .duplicateAttribute
    expandNames s ((n, value) :: before) rest

/-- Reads a start tag whose text begins at `place` in a scope. -/
def resolve (d : Declarations) (opened : List String) (scope : Scope) (place : List Char)
    (t : StartTag) : Except Fault ResolvedTag := do
  let state ← d.takeWritten opened place t.name ⟨[], [], scope⟩ t.attributes
  let here : ∀ {α : Type}, Except Problem α → Except Fault α := fun x =>
    x.mapError fun p => ⟨p, place⟩
  let state ← here (takeDefaults t.name state d.rules)
  let attributes ← here (expandNames state.scope [] state.attributes)
  let name ← here (state.scope.elementName t.name)
  return ⟨name, attributes, state.scope⟩

end Declarations

end RoleSchema.Xml
