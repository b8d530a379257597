/-!
# Faults of documents

What can be wrong with a document, and where. A fault carries the text that is left at its place;
`Fault.position` finds the line and the column from it.
-/

namespace RoleSchema.Xml

/-- What is wrong with a document. -/
inductive Problem where
  | unexpectedMarkup
  | noElement
  | invalidToken
  | unclosedToken
  /-- The document ends within a character. -/
  | partialCharacter
  | mismatchedTag
  | duplicateAttribute
  | junkAfterElement
  | parameterReference
  /-- A reference to an entity that is not declared, with its text where that is shown. -/
  | undefinedEntity (shown : String)
  | recursiveReference
  /-- The texts of entities are much longer than the document. -/
  | overgrown
  | asynchronousEntity
  | badCharacterNumber
  | binaryReference
  | externalReference
  | misplacedDeclaration
  | unknownEncoding (name : String)
  /-- An encoding in which some characters have several bytes. -/
  | wideEncoding
  /-- An encoding in which the characters of markup are not where they are in ASCII. -/
  | unsuitableEncoding
  | incorrectEncoding
  | unclosedCdata
  | malformedDeclaration
  | badPublicId
  | unboundPrefix
  | undeclaredPrefix
  | reservedXml
  | reservedXmlns
  | reservedNamespace
  deriving DecidableEq, Repr

/-- The text of a problem. -/
def Problem.message : Problem → String
  | .unexpectedMarkup => "syntax error"
  | .noElement => "no element found"
  | .invalidToken => "not well-formed (invalid token)"
  | .unclosedToken => "unclosed token"
  | .partialCharacter => "partial character"
  | .mismatchedTag => "mismatched tag"
  | .duplicateAttribute => "duplicate attribute"
  | .junkAfterElement => "junk after document element"
  | .parameterReference => "illegal parameter entity reference"
  | .undefinedEntity shown => "undefined entity" ++ shown
  | .recursiveReference => "recursive entity reference"
  | .overgrown => "limit on input amplification factor (from DTD and entities) breached"
  | .asynchronousEntity => "asynchronous entity"
  | .badCharacterNumber => "reference to invalid character number"
  | .binaryReference => "reference to binary entity"
  | .externalReference => "reference to external entity in attribute"
  | .misplacedDeclaration => "XML or text declaration not at start of entity"
  | .unknownEncoding name => "unknown encoding: " ++ name
  | .wideEncoding => "multi-byte encodings are not supported"
  | .unsuitableEncoding => "unknown encoding"
  | .incorrectEncoding => "encoding specified in XML declaration is incorrect"
  | .unclosedCdata => "unclosed CDATA section"
  | .malformedDeclaration => "XML declaration not well-formed"
  | .badPublicId => "illegal character(s) in public id"
  | .unboundPrefix => "unbound prefix"
  | .undeclaredPrefix => "must not undeclare prefix"
  | .reservedXml =>
    "reserved prefix (xml) must not be undeclared or bound to another namespace name"
  | .reservedXmlns => "reserved prefix (xmlns) must not be declared or undeclared"
  | .reservedNamespace => "prefix must not be bound to one of the reserved namespace names"

/-- A place in a text: lines count from one, columns from zero. -/
structure Position where
  line : Nat := 1
  column : Nat := 0
  deriving DecidableEq, Repr

/-- A problem and the text that is left at its place. -/
structure Fault where
  problem : Problem
  rest : List Char
  deriving Repr

/-- A fault of a part of a text, of which `after` is what follows the place where the part begins
and `length` the length of the part. -/
def Fault.within (f : Fault) (length : Nat) (after : List Char) : Fault :=
  ⟨f.problem, after.drop (length - f.rest.length)⟩

/-- The place that `count` characters lie before, in a text that begins at `p`. A carriage return
and the line feed after it end one line; a carriage return that ends the text ends none. -/
def Position.after (p : Position) : Nat → List Char → Position
  | 0, _ | _, [] => p
  | 1, '\r' :: '\n' :: _ => ⟨p.line + 1, 0⟩
  | _, ['\r'] => p
  | n + 2, '\r' :: '\n' :: rest => Position.after ⟨p.line + 1, 0⟩ n rest
  | n + 1, c :: rest =>
    Position.after (if c == '\n' || c == '\r' then ⟨p.line + 1, 0⟩ else ⟨p.line, p.column + 1⟩) n
      rest

/-- The place of a fault in a text. -/
def Fault.position (f : Fault) (text : List Char) : Position :=
  Position.after ⟨1, 0⟩ (text.length - f.rest.length) text

/-- What is wrong with a text, and where. -/
structure Complaint where
  problem : Problem
  position : Position
  deriving DecidableEq, Repr

/-- A fault with its place in a text. -/
def Fault.complaint (f : Fault) (text : List Char) : Complaint := ⟨f.problem, f.position text⟩

/-- A complaint in words. -/
def Complaint.message (c : Complaint) : String :=
  c.problem.message ++ ": line " ++ toString c.position.line ++ ", column " ++
    toString c.position.column

end RoleSchema.Xml
