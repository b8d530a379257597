import RoleSchema.Xml.Reference

/-!
# Items of content

The content of an element is a row of items: runs of text, references, tags, and asides, which are
comments, processing instructions and CDATA sections. `Item.scan` reads the next one.
-/

namespace RoleSchema.Xml

/-- An attribute as it is written. -/
structure RawAttribute where
  name : QName
  value : List Placed
  place : List Char
  deriving Repr

/-- A start tag as it is written. -/
structure StartTag where
  name : QName
  attributes : List RawAttribute
  /-- Whether the tag also ends its element. -/
  isWhole : Bool
  deriving Repr

/-- An item of content. -/
inductive Item where
  | text
  | reference (r : Reference)
  | start (t : StartTag)
  /-- An end tag, with the text that begins with its name. -/
  | close (name : String) (place : List Char)
  | aside
  deriving Repr

namespace Scanner

/-- Reads a comment after `<!-`. -/
def comment : Scanner Unit := do
  let _ ← one (· == '-')
  let _ ← many do
    let c ← one isAllowed
    if c == '-' && (← peek) == '-' then
      let _ ← one (· == '-')
      let _ ← one (· == '>')
      return none
    return some ()

/-- Reads a processing instruction after `<?`, and says whether it is an XML declaration. Its target
is no other spelling of that word. -/
def instruction : Scanner Bool := do
  let target ← name
  if target.toLower == "xml" && target != "xml" then refuse
  if isBlank (← peek) then
    let _ ← many do
      let c ← one isAllowed
      if c == '?' && (← peek) == '>' then
        let _ ← one (· == '>')
        return none
      return some ()
  else exactly ['?', '>']
  return target == "xml"

/-- Reads an attribute, unless the tag is at its end. -/
def rawAttribute : Scanner (Option RawAttribute) := do
  let apart ← blanks
  let c ← peek
  if c == '>' || c == '/' then return none
  if !apart then refuse
  let place ← get
  let n ← qname
  let _ ← blanks
  let _ ← one (· == '=')
  let _ ← blanks
  return some ⟨n, ← quotedPieces, place⟩

/-- Reads a start tag after its `<`. -/
def startTag : Scanner StartTag := do
  let n ← qname
  let attributes ← many rawAttribute
  let c ← one fun c => c == '>' || c == '/'
  if c == '/' then
    let _ ← one (· == '>')
    return ⟨n, attributes, true⟩
  return ⟨n, attributes, false⟩

/-- Reads an end tag after its `</`. -/
def endTag : Scanner (String × List Char) := do
  let place ← get
  let a ← read
  let first ← one (isNameStart a)
  let others ← run fun c => isNameChar a c || c == ':'
  let _ ← blanks
  let _ ← one (· == '>')
  return (String.ofList (first :: others), place)

end Scanner

/-- What is left after a CDATA section whose beginning has been read. -/
def cdataRest : List Char → Except Fault (List Char)
  | ']' :: ']' :: '>' :: rest => .ok rest
  | [] => .error ⟨.unclosedCdata, []⟩
  | [']'] => .error ⟨.unclosedCdata, [']']⟩
  | [']', ']'] => .error ⟨.unclosedCdata, [']', ']']⟩
  | c :: rest => if isAllowed c then cdataRest rest else .error ⟨.invalidToken, c :: rest⟩

/-- What is left after a run of text. The end mark of a CDATA section is no text. -/
def textRest : List Char → Except Fault (List Char)
  | [] => .ok []
  | ']' :: ']' :: '>' :: rest => .error ⟨.invalidToken, '>' :: rest⟩
  | c :: rest =>
    if c == '<' || c == '&' then .ok (c :: rest)
    else if isAllowed c then textRest rest
    else .error ⟨.invalidToken, c :: rest⟩

namespace Item

/-- Reads markup after `<`, but for CDATA sections. -/
def markup : Scanner Item := do
  let c ← Scanner.peek
  if c == '!' then
    Scanner.exactly ['!', '-']
    Scanner.comment
    return .aside
  else if c == '?' then
    let _ ← Scanner.one (· == '?')
    let _ ← Scanner.instruction
    return .aside
  else if c == '/' then
    let _ ← Scanner.one (· == '/')
    let (n, place) ← Scanner.endTag
    return .close n place
  else return .start (← Scanner.startTag)

/-- The word that begins a CDATA section, in brackets. -/
def cdataWord : List Char := ['C', 'D', 'A', 'T', 'A', '[']

/-- Reads the next item. -/
def scan (a : Alphabet) (text : List Char) : Except Fault (Item × List Char) :=
  match text with
  | '<' :: '!' :: '[' :: rest =>
    if rest.length < cdataWord.length then .error ⟨.unclosedToken, text⟩
    else do
      let (_, rest) ← Scanner.token (Scanner.exactly cdataWord) a rest
      return (.aside, ← cdataRest rest)
  | '<' :: rest =>
    match markup a rest with
    | .ok r => if isDeclaration text then .error ⟨.misplacedDeclaration, text⟩ else .ok r
    | .error .ended => .error ⟨.unclosedToken, text⟩
    | .error (.misfit r) => .error ⟨.invalidToken, r⟩
  | '&' :: rest =>
    match Scanner.reference a rest with
    | .ok (r, rest) => .ok (.reference r, rest)
    | .error .ended => .error ⟨.unclosedToken, text⟩
    | .error (.misfit r) => .error ⟨.invalidToken, r⟩
  | _ => do return (.text, ← textRest text)
where
  /-- Whether markup is an XML declaration. -/
  isDeclaration : List Char → Bool
    | '<' :: '?' :: 'x' :: 'm' :: 'l' :: c :: _ => isBlank c || c == '?'
    | _ => false

end Item

end RoleSchema.Xml
