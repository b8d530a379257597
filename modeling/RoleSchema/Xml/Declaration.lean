import RoleSchema.Xml.Reference

/-!
# Declarations

What a document declares before its root element: entities, and rules for attributes. A reference
in an attribute value is replaced by the text of its entity, in which every blank becomes a space;
where a rule says that the attribute is a list of tokens, only single spaces between them stay. The
texts of entities must not be much longer than the document.

* `Declarations.replacement`: the text of pieces.
-/

namespace RoleSchema.Xml

/-- What the name of an entity stands for. -/
inductive Entity where
  | internal (text : List Char)
  /-- A text that is kept elsewhere. -/
  | external
  /-- Data that is not text. -/
  | unparsed
  deriving DecidableEq, Repr

/-- What is declared of an attribute of the elements with a name. -/
structure AttributeRule where
  element : QName
  name : QName
  /-- Whether the value is plain text and not a list of tokens. -/
  isText : Bool
  /-- The value where the attribute is not written. -/
  default : Option String
  deriving DecidableEq, Repr

/-- The declarations of a document. -/
structure Declarations where
  entities : List (String × Entity) := []
  rules : List AttributeRule := []
  /-- Whether the document says that it depends on nothing outside. -/
  isStandalone : Bool := false
  /-- Whether declarations outside the document are left out. -/
  isPartial : Bool := false
  /-- The numbers of bytes that entities come to, with the entities in them. -/
  weights : List (String × Nat) := []
  /-- How many bytes the texts of entities may come to. -/
  allowance : Nat := 8388608
  deriving Repr

namespace Declarations

/-- The entity with a name. -/
def entity? (d : Declarations) (name : String) : Option Entity := d.entities.lookup name

/-- Whether every entity must be declared. -/
def isComplete (d : Declarations) : Bool := d.isStandalone || !d.isPartial

/-- The rule for an attribute. -/
def rule? (d : Declarations) (element name : QName) : Option AttributeRule :=
  d.rules.find? fun r => r.element == element && r.name == name

/-- Declares an entity. The first declaration of a name binds. -/
def addEntity (d : Declarations) (name : String) (e : Entity) : Declarations :=
  if (d.entity? name).isSome || (predefinedEntity? name).isSome then d
  else { d with entities := d.entities ++ [(name, e)] }

/-- Declares an attribute. The first declaration binds. -/
def addRule (d : Declarations) (r : AttributeRule) : Declarations :=
  if (d.rule? r.element r.name).isSome then d else { d with rules := d.rules ++ [r] }

/-! ## Growth -/

/-- The names of the entities that a text refers to. -/
def namesIn : List Char → List String
  | [] => []
  | c :: rest =>
    if c = '&' then String.ofList (rest.takeWhile (· ≠ ';')) :: namesIn rest else namesIn rest

/-- The bytes that a text comes to, once those of the entities in it are known. -/
def weight? (d : Declarations) (text : List Char) : Option Nat :=
  (namesIn text).foldlM (fun n name =>
    match d.entity? name, d.weights.lookup name with
    | some (.internal _), none => none
    | _, w => some (n + w.getD 0)) (String.ofList text).utf8ByteSize

/-- Weighs the entities in which only entities that have been weighed occur. -/
def weighedOnce (d : Declarations) : Declarations :=
  { d with weights := d.entities.filterMap fun e =>
      match e.2 with
      | .internal text => (d.weight? text).map fun w => (e.1, w)
      | _ => none }

/-- Weighs the entities, up to some times, until all of them have a weight. -/
def weighedWithin : Nat → Declarations → Declarations
  | 0, d => d
  | n + 1, d =>
    if d.weights.length = d.entities.length then d else weighedWithin n d.weighedOnce

/-- Weighs the entities. Each time at least one of those that can be weighed gets its weight; those
that occur in themselves have none. -/
def weighed (d : Declarations) : Declarations := weighedWithin d.entities.length d

/-- The bytes that references come to. -/
def growth (d : Declarations) (ps : List Placed) : Nat :=
  ps.foldl (fun n p =>
    match p.piece with
    | .reference (.entity name) => n + (d.weights.lookup name).getD 0
    | _ => n) 0

/-! ## Replacement -/

/-- Pieces in which every line end is one piece. -/
def joinLineEnds : List Placed → List Placed
  | ⟨.char '\r', place⟩ :: ⟨.char '\n', _⟩ :: rest => ⟨.char '\n', place⟩ :: joinLineEnds rest
  | p :: rest => p :: joinLineEnds rest
  | [] => []

/-- The text of pieces, given that of each entity. Blanks become spaces; only a reference to its
number keeps another blank. Some faults are at the piece, all others at `start`. -/
def textOf (entityText : String → Except Problem (List Char)) (start : List Char) :
    List Placed → Except Fault (List Char)
  | [] => .ok []
  | ⟨.char c, _⟩ :: rest =>
    return (if isBlank c then ' ' else c) :: (← textOf entityText start rest)
  | ⟨.reference (.character n), place⟩ :: rest =>
    match charOfNumber? n with
    | some c => return c :: (← textOf entityText start rest)
    | none => .error ⟨.badCharacterNumber, place⟩
  | ⟨.reference (.entity name), place⟩ :: rest =>
    match predefinedEntity? name with
    | some c => return c :: (← textOf entityText start rest)
    | none =>
      match entityText name with
      | .ok t => return t ++ (← textOf entityText start rest)
      | .error .binaryReference => .error ⟨.binaryReference, place⟩
      | .error .externalReference => .error ⟨.externalReference, place⟩
      | .error p => .error ⟨p, start⟩

/-- A piece of the value of an attribute. -/
def valuePiece : Scanner Placed := Scanner.piece Scanner.fitsValue

/-- The text of an entity in an attribute value, where the entities `opened` are being replaced
already. No entity opens within itself, so their number bounds the depth. -/
def entityText (d : Declarations) : Nat → List String → String → Except Problem (List Char)
  | 0, _, _ => .error .recursiveReference
  | depth + 1, opened, name =>
    match d.entity? name with
    | none => if d.isComplete then .error (.undefinedEntity "") else .ok []
    | some e =>
      if opened.contains name then .error .recursiveReference
      else
        match e with
        | .unparsed => .error .binaryReference
        | .external => .error .externalReference
        | .internal text =>
          let (ps, fault) := Scanner.whole valuePiece .standard text
          (orFault fault (textOf (d.entityText depth (name :: opened)) [] ps)).mapError
            Fault.problem

/-- The text of pieces in an attribute value, which belongs to the token that begins at `start`. A
line end is one blank; in the text of an entity line ends have been seen to already. -/
def replacement (d : Declarations) (opened : List String) (start : List Char)
    (ps : List Placed) : Except Fault (List Char) :=
  textOf (d.entityText (d.entities.length + 1) opened) start
    (if opened.isEmpty then joinLineEnds ps else ps)

end Declarations

/-- Leaves out spaces after a space, and at the beginning if `afterSpace` holds. -/
def collapseFrom (afterSpace : Bool) : List Char → List Char
  | [] => []
  | c :: rest =>
    if c = ' ' then
      if afterSpace then collapseFrom true rest else ' ' :: collapseFrom true rest
    else c :: collapseFrom false rest

/-- A list of tokens: single spaces between them and none around. -/
def collapse (cs : List Char) : List Char :=
  let cs := collapseFrom true cs
  if cs.getLast? = some ' ' then cs.dropLast else cs

end RoleSchema.Xml
