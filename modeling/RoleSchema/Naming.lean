import RoleSchema.Model.Query
import RoleSchema.Text.Case
import RoleSchema.Rel.Syntax

/-!
# Names

How the names of a model become names of a schema. A name of a model is written in capitalised
words, `EventCode`; in a schema it is written in small words joined by `_`, `event_code`.

* `flatten_wordsOf`: the words of a name are the whole name.
-/

namespace RoleSchema

/-- Why a name of the schema cannot be formed. -/
inductive NamingFault where
  /-- The name does not begin with a capital. -/
  | notCapitalised (name : String)
  /-- Nobody plays the role whose player should be named. -/
  | noPlayer (role : Id)
  deriving DecidableEq, Repr

/-- The wording of a fault. -/
def NamingFault.message : NamingFault → String
  | .notCapitalised name => "Expected string '" ++ name ++ "' to be in PascalCase"
  | .noPlayer role => "Role " ++ role.text ++ " has no role player"

/-- The capitals of ASCII: only these begin a word. -/
def isCapital (c : Char) : Bool := c.isUpper

/-- Splits before every capital. The first word holds what precedes the first capital. -/
def splitCapitals : List Char → List Char × List (List Char)
  | [] => ([], [])
  | c :: rest =>
    let (first, words) := splitCapitals rest
    if isCapital c then ([], (c :: first) :: words) else (c :: first, words)

/-- The words of a name, each beginning with a capital; none unless the name begins with one. -/
def wordsOf (cs : List Char) : List (List Char) :=
  match splitCapitals cs with
  | ([], words) => words
  | _ => []

/-- Joins words by `_`, each in small letters. -/
def joinSmall (words : List (List Char)) : String :=
  "_".intercalate (words.map fun w => String.ofList (Text.lowerChars w))

/-- The name of the schema for a name of the model. -/
def snakeCase (name : String) : Except NamingFault String :=
  match wordsOf name.toList with
  | [] => .error (.notCapitalised name)
  | words => .ok (joinSmall words)

/-! ## Reference modes -/

/-- What of a label has been read: nothing since the last word, a run of capitals, or a capital and
the characters after it. Characters are held from the nearest on. -/
inductive LabelState where
  | between
  | capitals (last : Char) (before : List Char)
  | word (chars : List Char)
  deriving DecidableEq, Repr

/-- The words of a label. A run of capitals is a word of its own unless a small letter follows: then
its last capital begins the next word, which goes on to the next capital. What stands between a run
of capitals and the next capital belongs to no word. -/
def labelWordsFrom : LabelState → List Char → List (List Char)
  | .between, [] => []
  | .capitals last before, [] => [(last :: before).reverse]
  | .word chars, [] => [chars.reverse]
  | .between, c :: rest =>
    if isCapital c then labelWordsFrom (.capitals c []) rest else labelWordsFrom .between rest
  | .capitals last before, c :: rest =>
    if isCapital c then labelWordsFrom (.capitals c (last :: before)) rest
    else if c.isLower then
      if before.isEmpty then labelWordsFrom (.word [c, last]) rest
      else before.reverse :: labelWordsFrom (.word [c, last]) rest
    else (last :: before).reverse :: labelWordsFrom .between rest
  | .word chars, c :: rest =>
    if isCapital c then chars.reverse :: labelWordsFrom (.capitals c []) rest
    else labelWordsFrom (.word (c :: chars)) rest

/-- The words of a label. -/
def labelWords (cs : List Char) : List (List Char) := labelWordsFrom .between cs

/-- A reference mode as a part of names: the words of a label that begins with a capital, and any
other label as it stands. -/
def modeToken (mode : String) : String :=
  match mode.toList with
  | c :: rest => if isCapital c then joinSmall (labelWords (c :: rest)) else mode
  | [] => mode

/-- The reference mode of an entity type as a part of names. -/
def ObjectType.modeToken (e : ObjectType) : String := RoleSchema.modeToken e.referenceMode

/-! ## Types -/

/-- The data types whose values are texts; data types that are not listed here count among them. -/
def stringDataTypes : List String :=
  ["VariableLengthTextDataType", "FixedLengthTextDataType", "AutoCounterNumericDataType"]

/-- The data types whose values are written as integers. -/
def integerDataTypes : List String :=
  ["SignedIntegerNumericDataType", "UnsignedIntegerNumericDataType",
    "UnsignedSmallIntegerNumericDataType", "TrueOrFalseLogicalDataType", "TimeTemporalDataType"]

/-- The primitive type of a kind of data type. -/
def primitiveOf (kind : String) : String :=
  if stringDataTypes.contains kind then "String"
  else if integerDataTypes.contains kind then "Int"
  else if kind = "DateTemporalDataType" then "Date"
  else if kind = "DateAndTimeTemporalDataType" then "DateTime"
  else "String"

/-- The primitive type of a data type, texts where there is none. -/
def primitiveOf? (dataType : Option DataType) : String :=
  match dataType with
  | some d => primitiveOf d.kind
  | none => "String"

namespace Model

/-- The name of the type of the instances at a role: the entity type that plays it or the primitive
type of its values. -/
def roleType (m : Model) (role : Id) : String :=
  match m.entityThatPlays role with
  | some e => e.name
  | none => primitiveOf? (m.dataTypeOfPlayer role)

/-- The name of the player of a role as a name of the schema. -/
def playerName (m : Model) (role : Id) : Except NamingFault String :=
  match m.rolePlayer role with
  | some o => snakeCase o.name
  | none => .error (.noPlayer role)

end Model

/-! ## Words -/

theorem splitCapitals_append (cs : List Char) :
    (splitCapitals cs).1 ++ (splitCapitals cs).2.flatten = cs := by
  induction cs with
  | nil => rfl
  | cons c rest ih =>
    rcases h : splitCapitals rest with ⟨first, words⟩
    rw [h] at ih
    by_cases hc : isCapital c <;> simp_all [splitCapitals]

theorem length_splitCapitals (cs : List Char) :
    (splitCapitals cs).2.length = cs.countP isCapital := by
  induction cs with
  | nil => rfl
  | cons c rest ih =>
    rcases h : splitCapitals rest with ⟨first, words⟩
    rw [h] at ih
    by_cases hc : isCapital c <;> simp_all [splitCapitals]

theorem flatten_wordsOf {cs : List Char} (h : wordsOf cs ≠ []) : (wordsOf cs).flatten = cs := by
  rcases hs : splitCapitals cs with ⟨first, words⟩
  have := splitCapitals_append cs
  cases first with
  | nil => simp_all [wordsOf]
  | cons c first => simp [wordsOf, hs] at h

end RoleSchema
