import RoleSchema.Data.Binary64
import RoleSchema.Data.Calendar
import RoleSchema.Text.Number
import RoleSchema.Text.Quoted

/-!
# Values

The values of settings: nothing, truth values, numbers, dates, texts, bytes, lists, sets, and
mappings in which keys keep the order in which they were first bound. `Value.inMessage` is how a
value is shown in messages, where only a text on its own goes without quotes.
-/

namespace RoleSchema

/-- A value of settings. -/
inductive Value where
  | null
  | bool (b : Bool)
  | int (n : Int)
  | float (x : Binary64)
  | text (s : String)
  /-- A text in which there are surrogates, as its code points. -/
  | points (ns : List Nat)
  | bytes (bs : List UInt8)
  | day (d : Day)
  | moment (t : Moment)
  | list (items : List Value)
  /-- Pairs of values, in which a first one may come several times. -/
  | pairs (items : List (Value × Value))
  | set (items : List Value)
  | mapping (entries : List (Value × Value))
  deriving Repr, Inhabited

/-- Keys in the order in which they were first bound, each with what it is bound to. -/
abbrev Bindings (α : Type) := List (Value × α)

/-- The entries of a mapping. -/
abbrev Entries := Bindings Value

namespace Value

/-- The integer that a truth value or a number is equal to. -/
def toInt? : Value → Option Int
  | .bool b => some (if b then 1 else 0)
  | .int n => some n
  | .float x => x.toInt?
  | _ => none

/-- Whether two values are one key: numbers and moments by their value, all else by what it is.
Collections are no keys. -/
def sameKey (a b : Value) : Bool :=
  match a.toInt?, b.toInt? with
  | some m, some n => m == n
  | none, none =>
    match a, b with
    | .null, .null => true
    | .float x, .float y => x == y
    | .text s, .text t => s == t
    | .points m, .points n => m == n
    | .bytes b, .bytes c => b == c
    | .day d, .day e => d == e
    | .moment s, .moment t => s.same t
    | _, _ => false
  | _, _ => false

/-- Whether a value is a text. -/
def isText : Value → Bool
  | .text _ | .points _ => true
  | _ => false

/-- Whether a value says nothing: null, false, zero, or without contents. -/
def isEmpty : Value → Bool
  | .null => true
  | .bool b => !b
  | .int n => n == 0
  | .float x => x.toInt? == some 0
  | .text s => s == ""
  | .points ns => ns.isEmpty
  | .bytes bs => bs.isEmpty
  | .day _ | .moment _ => false
  | .list items | .set items => items.isEmpty
  | .pairs entries | .mapping entries => entries.isEmpty

end Value

namespace Bindings

variable {α : Type}

/-- What a key is bound to. -/
def get? (entries : Bindings α) (key : Value) : Option α :=
  (entries.find? fun e => e.1.sameKey key).map Prod.snd

/-- Binds a key: in its old place if it was bound, and otherwise at the end. -/
def put (key : Value) (a : α) : Bindings α → Bindings α
  | [] => [(key, a)]
  | (k, b) :: rest => if k.sameKey key then (k, a) :: rest else (k, b) :: put key a rest

end Bindings

/-! ## Values in messages -/

namespace Value

/-- Texts between brackets, with commas. -/
def enclosed (opening closing : String) (texts : List String) : String :=
  opening ++ ", ".intercalate texts ++ closing

/-- A set; the empty one is not told by its braces. -/
def setText (items : List String) : String :=
  if items.isEmpty then "set()" else enclosed "\x7b" "\x7d" items

mutual

/-- A value inside a collection. -/
def nested : Value → String
  | .null => "None"
  | .bool b => if b then "True" else "False"
  | .int n => toString n
  | .float x => x.text
  | .text s => Text.quoted s
  | .points ns => Text.quotedPoints ns
  | .bytes bs => Text.quotedBytes bs
  | .day d => d.nested
  | .moment t => t.nested
  | .list items => enclosed "[" "]" (nestedItems items)
  | .pairs items => enclosed "[" "]" (nestedPairs items)
  | .set items => setText (nestedItems items)
  | .mapping entries => enclosed "\x7b" "\x7d" (nestedEntries entries)

/-- The items of a list. -/
def nestedItems : List Value → List String
  | [] => []
  | v :: rest => v.nested :: nestedItems rest

/-- The items of a list of pairs. -/
def nestedPairs : List (Value × Value) → List String
  | [] => []
  | (a, b) :: rest => enclosed "(" ")" [a.nested, b.nested] :: nestedPairs rest

/-- The entries of a mapping. -/
def nestedEntries : List (Value × Value) → List String
  | [] => []
  | (k, v) :: rest => (k.nested ++ ": " ++ v.nested) :: nestedEntries rest

end

/-- A value on its own. -/
def inMessage : Value → String
  | .text s => s
  | .points ns => String.ofList (ns.map fun n => if n.isValidChar then Char.ofNat n else '\ufffd')
  | .day d => d.text
  | .moment t => t.text
  | v => v.nested

/-- The name of the sort of a value. -/
def sortName : Value → String
  | .null => "NoneType"
  | .bool _ => "bool"
  | .int _ => "int"
  | .float _ => "float"
  | .text _ | .points _ => "str"
  | .bytes _ => "bytes"
  | .day _ => "datetime.date"
  | .moment _ => "datetime.datetime"
  | .list _ | .pairs _ => "list"
  | .set _ => "set"
  | .mapping _ => "dict"

/-- The name of the sort of a value, without what it belongs to. -/
def shortSortName : Value → String
  | .day _ => "date"
  | .moment _ => "datetime"
  | v => v.sortName

/-- Whether an integer has too many digits to be shown. -/
def isHuge (n : Int) : Bool := Nat.pow 10 Text.maxDigits ≤ n.natAbs

mutual

/-- Whether a value can be shown: no integer in it is too long. -/
def isShowable : Value → Bool
  | .int n => !isHuge n
  | .list items | .set items => areShowable items
  | .pairs entries | .mapping entries => pairsShowable entries
  | _ => true

/-- Whether values can be shown. -/
def areShowable : List Value → Bool
  | [] => true
  | v :: rest => v.isShowable && areShowable rest

/-- Whether pairs of values can be shown. -/
def pairsShowable : List (Value × Value) → Bool
  | [] => true
  | (k, v) :: rest => k.isShowable && v.isShowable && pairsShowable rest

end

end Value

end RoleSchema
