import RoleSchema.Xml.Declaration
import RoleSchema.Xml.Doctype.Token

/-!
# Document type declarations

A document type declaration names the root element and may declare elements, attributes, entities
and notations in its internal subset. Of these, entities and attributes say how the content is to
be read. Declarations after a reference to a parameter entity are checked but do not count, unless
the document stands alone: the entity might have declared the same names first.
-/

namespace RoleSchema.Xml.Doctype

/-- What has been declared so far. -/
structure State where
  declarations : Declarations := {}
  /-- Whether declarations still count. -/
  counts : Bool := true
  deriving Repr

/-- A reader of tokens. -/
abbrev Reader := ReaderT Alphabet (StateT (List Char) (Except Fault))

/-- The fault of a token in a wrong place. -/
def misplaced (t : Token) (place : List Char) : Fault :=
  match t with
  | .parameterReference => ⟨.parameterReference, place⟩
  | .xmlDeclaration => ⟨.misplacedDeclaration, place⟩
  | _ => ⟨.unexpectedMarkup, place⟩

/-- Reads a token, which `accept` must take. -/
def read {α : Type} (accept : Token → Option α) : Reader (α × List Char) := fun a text => do
  match ← Token.next a text with
  | none => throw ⟨.noElement, []⟩
  | some (t, place, rest) =>
    match accept t with
    | some x => return ((x, place), rest)
    | none => throw (misplaced t place)

/-- Reads a given token. -/
def expect (t : Token) : Reader Unit := do
  let _ ← read fun u => if u = t then some () else none

/-- Reads the name of an element or of an attribute. -/
def qname : Reader QName := do
  let (q, _) ← read fun
    | .name s => some ⟨none, s⟩
    | .qname q => some q
    | _ => none
  return q

/-- Reads a name without a prefix. -/
def name : Reader String := do
  let (s, _) ← read fun
    | .name s => some s
    | _ => none
  return s

/-- Reads a literal and gives the text that begins with it. -/
def literal : Reader (List Char × List Char) :=
  read fun
    | .literal body => some body
    | _ => none

/-- Whether a public identifier may hold a character. -/
def isPublic (c : Char) : Bool :=
  c.isAlphanum || "-'()+,/=?\r\n;!*%#:_.@$ ".contains c

/-- Reads a public identifier. -/
def publicId : Reader Unit := do
  let (body, place) ← literal
  match body.dropWhile isPublic with
  | [] => return
  | bad => throw ⟨.badPublicId, place.drop (1 + body.length - bad.length)⟩

/-! ## Elements -/

mutual

/-- Reads an item of a content model. `levels` holds the open groups, each with the mark between
its items. -/
def modelItem : Nat → List (Option Token) → Reader Unit
  | 0, _ => pure ()
  | fuel + 1, levels => do
    let (isGroup, _) ← read fun
      | .openParen => some true
      | .name _ | .qname _ | .repeated => some false
      | _ => none
    if isGroup then modelItem fuel (none :: levels) else modelMark fuel levels

/-- Reads what follows an item of a content model. The items of one group are all joined by the
same mark. -/
def modelMark : Nat → List (Option Token) → Reader Unit
  | 0, _ | _, [] => pure ()
  | fuel + 1, level :: levels => do
    let (t, _) ← read fun
      | .closeParen m => some (Token.closeParen m)
      | .comma => if level = some .bar then none else some .comma
      | .bar => if level = some .comma then none else some .bar
      | _ => none
    match t with
    | .closeParen _ => modelMark fuel levels
    | t => modelItem fuel (some t :: levels)

end

/-- Reads the names that may stand between text. -/
def mixedNames : Nat → Bool → Reader Unit
  | 0, _ => pure ()
  | fuel + 1, isFirst => do
    let (more, _) ← read fun
      | .closeParen (some '*') => some false
      | .closeParen none => if isFirst then some false else none
      | .bar => some true
      | _ => none
    if more then
      let _ ← qname
      mixedNames fuel false

/-- Reads the declaration of an element after its keyword. -/
def elementDeclaration : Reader Unit := do
  let _ ← qname
  let (isGroup, _) ← read fun
    | .name "EMPTY" | .name "ANY" => some false
    | .openParen => some true
    | _ => none
  if isGroup then
    let text ← get
    match ← Token.next (← readThe Alphabet) text with
    | some (.hash "PCDATA", _, rest) =>
      set rest
      mixedNames rest.length true
    | _ => modelItem (2 * text.length + 2) [none]
  expect .closing

/-! ## Attributes -/

/-- Reads the rest of a list of values in parentheses. -/
def valuesRest (accept : Token → Option Unit) : Nat → Reader Unit
  | 0 => pure ()
  | fuel + 1 => do
    let _ ← read accept
    let (more, _) ← read fun
      | .closeParen none => some false
      | .bar => some true
      | _ => none
    if more then valuesRest accept fuel

/-- Reads the type of an attribute, and says whether it is plain text. -/
def attributeType : Reader Bool := do
  let (s, _) ← read fun
    | .name s =>
      if ["CDATA", "ID", "IDREF", "IDREFS", "ENTITY", "ENTITIES", "NMTOKEN", "NMTOKENS",
        "NOTATION"].contains s then some s
      else none
    | .openParen => some "("
    | _ => none
  let fuel := (← get).length
  if s = "NOTATION" then
    expect .openParen
    valuesRest (fun
      | .name _ => some ()
      | _ => none) fuel
  else if s = "(" then
    valuesRest (fun
      | .name _ | .qname _ | .nameToken => some ()
      | _ => none) fuel
  return s = "CDATA"

/-- The value of a literal that is a default. -/
def defaultValue (s : State) (isText : Bool) (body place : List Char) : Reader String := do
  let (ps, fault) := Scanner.whole Declarations.valuePiece (← readThe Alphabet) body
  let d := s.declarations.weighed
  if d.growth ps > d.allowance then throw ⟨.overgrown, place⟩
  let inner (f : Fault) : Fault := f.within body.length (place.drop 1)
  let ps := ps.map fun p => { p with place := (inner ⟨.invalidToken, p.place⟩).rest }
  let text ← orFault (fault.map inner) (d.replacement [] place ps)
  return String.ofList (if isText then text else collapse text)

/-- Reads the default of an attribute. -/
def attributeDefault (s : State) (isText : Bool) : Reader (Option String) := do
  let value (body place : List Char) : Reader (Option String) :=
    if s.counts then return some (← defaultValue s isText body place) else return none
  let (t, place) ← read fun
    | .hash h =>
      if ["IMPLIED", "REQUIRED", "FIXED"].contains h then some (Sum.inl h) else none
    | .literal body => some (Sum.inr body)
    | _ => none
  match t with
  | .inr body => value body place
  | .inl "FIXED" =>
    let (body, place) ← literal
    value body place
  | .inl _ => return none

/-- Reads the attributes of an element. -/
def attributeDeclarations (element : QName) : Nat → State → Reader State
  | 0, s => pure s
  | fuel + 1, s => do
    let (n, _) ← read fun
      | .closing => some none
      | .name n => some (some ⟨none, n⟩)
      | .qname q => some (some q)
      | _ => none
    match n with
    | none => return s
    | some n =>
      let isText ← attributeType
      let default ← attributeDefault s isText
      let rule : AttributeRule := ⟨element, n, isText, default⟩
      attributeDeclarations element fuel
        (if s.counts then { s with declarations := s.declarations.addRule rule } else s)

/-! ## Entities -/

/-- The text of an entity: references to characters are replaced, those to entities stay, and those
to parameter entities have no place in it. -/
def entityText : List (List Char ⊕ Placed) → Except Fault (List Char)
  | [] => .ok []
  | .inr ⟨.char '\r', _⟩ :: .inr ⟨.char '\n', _⟩ :: rest => return '\n' :: (← entityText rest)
  | .inr ⟨.char c, _⟩ :: rest => return (if c == '\r' then '\n' else c) :: (← entityText rest)
  | .inr ⟨.reference (.character n), place⟩ :: rest =>
    match charOfNumber? n with
    | some c => return c :: (← entityText rest)
    | none => .error ⟨.badCharacterNumber, place⟩
  | .inr ⟨.reference (.entity name), _⟩ :: rest =>
    return '&' :: name.toList ++ ';' :: (← entityText rest)
  | .inl place :: _ => .error ⟨.parameterReference, place⟩

/-- A piece of the text of an entity: the place of a reference to a parameter entity, or another
piece. -/
def entityPiece : Scanner (List Char ⊕ Placed) := do
  let place ← get
  if (← Scanner.peek) == '%' then
    let _ ← Scanner.one (· == '%')
    match ← Token.afterPercent with
    | .parameterReference => return .inl place
    | _ => Scanner.refuse
  else return .inr (← Scanner.piece isAllowed)

/-- The text of the entity whose literal begins at `place`. -/
def entityValue (body place : List Char) : Reader (List Char) := do
  let (ps, fault) := Scanner.whole entityPiece (← readThe Alphabet) body
  let text : Except Fault (List Char) := (orFault fault (entityText ps)).mapError fun f =>
    f.within body.length (place.drop 1)
  return ← text

/-- Reads where a text that is kept elsewhere is to be found, after the keyword. -/
def externalId (keyword : String) : Reader Unit := do
  if keyword = "PUBLIC" then publicId
  let _ ← literal

/-- Reads what an entity is. -/
def entityBody (s : State) : Reader (Option Entity) := do
  let (source, place) ← read fun
    | .name n => if n = "SYSTEM" || n = "PUBLIC" then some (Sum.inl n) else none
    | .literal body => some (Sum.inr body)
    | _ => none
  match source with
  | .inr body =>
    if s.counts then return some (.internal (← entityValue body place)) else return none
  | .inl keyword =>
    externalId keyword
    return some .external

/-- Reads the declaration of an entity after its keyword. -/
def entityDeclaration (s : State) : Reader State := do
  let (n, _) ← read fun
    | .percent => some none
    | .name n => some (some n)
    | _ => none
  match n with
  | none =>
    let _ ← name
    let _ ← entityBody s
    expect .closing
    return s
  | some n =>
    let body ← entityBody s
    let declared (e : Entity) : State :=
      if s.counts then { s with declarations := s.declarations.addEntity n e } else s
    match body with
    | some .external =>
      let (isData, _) ← read fun
        | .closing => some false
        | .name "NDATA" => some true
        | _ => none
      if isData then
        let _ ← name
        expect .closing
        return declared .unparsed
      return declared .external
    | some e =>
      expect .closing
      return declared e
    | none =>
      expect .closing
      return s

/-- Reads the declaration of a notation after its keyword. -/
def notationDeclaration : Reader Unit := do
  let _ ← name
  let (keyword, _) ← read fun
    | .name n => if n = "SYSTEM" || n = "PUBLIC" then some n else none
    | _ => none
  if keyword = "SYSTEM" then
    let _ ← literal
    expect .closing
  else
    publicId
    let (more, _) ← read fun
      | .literal _ => some true
      | .closing => some false
      | _ => none
    if more then expect .closing

/-! ## The declaration -/

/-- Reads the internal subset to its bracket. -/
def subset : Nat → State → Reader State
  | 0, s => pure s
  | fuel + 1, s => do
    let (t, place) ← read some
    match t with
    | .aside => subset fuel s
    | .closeBracket => return s
    | .parameterReference =>
      subset fuel { s with
        counts := s.declarations.isStandalone && s.counts
        declarations := { s.declarations with isPartial := true } }
    | .opening "ENTITY" => subset fuel (← entityDeclaration s)
    | .opening "ATTLIST" =>
      let element ← qname
      subset fuel (← attributeDeclarations element ((← get).length + 1) s)
    | .opening "ELEMENT" =>
      elementDeclaration
      subset fuel s
    | .opening "NOTATION" =>
      notationDeclaration
      subset fuel s
    | t => throw (misplaced t place)

/-- Reads a document type declaration after its keyword. -/
def declaration (d : Declarations) : Reader Declarations := do
  let _ ← qname
  let subsetOrEnd (d : Declarations) (t : Token) : Reader Declarations := do
    if t = .closing then return d
    let s ← subset ((← get).length + 1) ⟨d, true⟩
    expect .closing
    return s.declarations
  let (t, _) ← read fun
    | .openBracket => some Token.openBracket
    | .closing => some .closing
    | .name n => if n = "SYSTEM" || n = "PUBLIC" then some (.name n) else none
    | _ => none
  match t with
  | .name keyword =>
    externalId keyword
    let (t, _) ← read fun
      | .openBracket => some Token.openBracket
      | .closing => some .closing
      | _ => none
    subsetOrEnd { d with isPartial := true } t
  | t => subsetOrEnd d t

end RoleSchema.Xml.Doctype
