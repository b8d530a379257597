import RoleSchema.Data.Graph.Basic
import RoleSchema.Text.Case

/-!
# Overrides from the environment

A variable `ORMREL_<SECTION>_<rest>` binds a text in a section of the settings: the rest, in small
letters and split at every `__`, is the path of keys. Overrides are applied section by section, in
the order of the environment, and stop at a section that is no mapping.
-/

namespace RoleSchema

/-- The variables of an environment with their values, each name once. -/
abbrev Variables := List (String × String)

/-- Sets a variable: in its old place if it was set, and otherwise at the end. -/
def Variables.set (name value : String) : Variables → Variables
  | [] => [(name, value)]
  | (n, v) :: rest => if n = name then (n, value) :: rest else (n, v) :: set name value rest

namespace Settings

/-- The sections of the settings. -/
def sections : List String := ["global", "generator", "namespaces"]

/-- What the names of the variables of a section begin with. -/
def variableStem (sectionName : String) : String :=
  "ORMREL_" ++ String.ofList (sectionName.toList.map Char.toUpper) ++ "_"

/-- The pieces between doubled low lines. `piece` holds the characters since the last one, from the
nearest on. -/
def splitDoubled (piece : List Char) : List Char → List (List Char)
  | '_' :: '_' :: rest => piece.reverse :: splitDoubled [] rest
  | c :: rest => splitDoubled (c :: piece) rest
  | [] => [piece.reverse]

/-- What follows a stem. -/
def afterStem? (stem cs : List Char) : Option (List Char) :=
  if stem.isPrefixOf cs then some (cs.drop stem.length) else none

/-- The keys that a variable leads to in a section, if it is a variable of the section. -/
def targetIn? (sectionName name : String) : Option (List String) :=
  (afterStem? (variableStem sectionName).toList name.toList).map fun rest =>
    (splitDoubled [] (Text.lowerChars rest)).map String.ofList

/-- Binds a value at a path of keys. What is bound on the way and is no mapping becomes one. -/
def bindAt (value : Value) : List String → Entries → Entries
  | [], entries => entries
  | [key], entries => entries.put (.text key) value
  | key :: path, entries =>
    let below := match entries.get? (.text key) with
      | some (.mapping below) => below
      | _ => []
    entries.put (.text key) (.mapping (bindAt value path below))

/-- A section that is no mapping is overridden. -/
inductive OverrideFault where
  /-- A key of the section is to be bound. -/
  | keyOf (sort : Value)
  /-- A key further down is to be bound. -/
  | below (sort : Value)
  deriving Repr

/-- The wording of an override that fails. -/
def OverrideFault.message : OverrideFault → String
  | .keyOf (.list _) | .keyOf (.pairs _) => "list indices must be integers or slices, not str"
  | .keyOf v => "'" ++ v.sortName ++ "' object does not support item assignment"
  | .below v => "'" ++ v.sortName ++ "' object has no attribute 'get'"

/-- The fault of overriding a section that is something else than a mapping. -/
def OverrideFault.of (sort : Value) (path : List String) : OverrideFault :=
  if path.length ≤ 1 then .keyOf sort else .below sort

/-- What applying overrides to settings has come to. -/
structure Overridden (α : Type) where
  settings : α
  /-- The variables that were applied, in order. -/
  applied : Variables
  fault : Option OverrideFault
  deriving Repr

/-- Applies one variable to a section. -/
def overrideSection (entries : Entries) (sectionName : String) (path : List String)
    (value : String) : Except OverrideFault Entries :=
  match entries.get? (.text sectionName) with
  | none => .ok (entries.put (.text sectionName) (.mapping (bindAt (.text value) path [])))
  | some (.mapping keys) =>
    .ok (entries.put (.text sectionName) (.mapping (bindAt (.text value) path keys)))
  | some other => .error (.of other path)

/-- Applies variables, each with the section and the path it leads to, by a way to apply one. -/
def applyAll {α : Type} (apply : α → String → List String → String → Except OverrideFault α)
    (settings : α) : List (String × String × String × List String) → Overridden α
  | [] => ⟨settings, [], none⟩
  | (name, value, sectionName, path) :: rest =>
    match apply settings sectionName path value with
    | .error fault => ⟨settings, [], some fault⟩
    | .ok settings =>
      let others := applyAll apply settings rest
      { others with applied := (name, value) :: others.applied }

/-- The variables that lead to a section, in the order of the environment. -/
def overridesOf (vars : Variables) (sectionName : String) :
    List (String × String × String × List String) :=
  vars.filterMap fun v =>
    (targetIn? sectionName v.1).map fun path => (v.1, v.2, sectionName, path)

/-- The variables that lead to sections, in the order in which they are applied. -/
def overridesIn (vars : Variables) : List (String × String × String × List String) :=
  sections.flatMap (overridesOf vars)

/-- Applies the variables of an environment. -/
def override (vars : Variables) (entries : Entries) : Overridden Entries :=
  applyAll overrideSection entries (overridesIn vars)

/-! ## Overrides in graphs -/

/-- Binds a value at a path of keys of the mapping at a place. -/
def bindWithin (value : Value) (place : Nat) : List String → Graph → Graph
  | [], g => g
  | [key], g => g.bind place (.text key) (.value value)
  | key :: path, g =>
    match ((g.bindings place).get? (.text key)).bind g.mappingAt? with
    | some below => bindWithin value below path g
    | none =>
      let (g, below) := g.push (.mapping [])
      bindWithin value below path (g.bind place (.text key) (.place below))

/-- Applies one variable to a section of the mapping at a place. -/
def overrideWithin (root : Nat) (g : Graph) (sectionName : String) (path : List String)
    (value : String) : Except OverrideFault Graph :=
  match (g.bindings root).get? (.text sectionName) with
  | none =>
    let (g, place) := g.push (.mapping [])
    .ok (bindWithin (.text value) place path (g.bind root (.text sectionName) (.place place)))
  | some item =>
    match g.mappingAt? item with
    | some place => .ok (bindWithin (.text value) place path g)
    | none => .error (.of (g.outline item) path)

/-- Applies the variables of an environment to the mapping at a place. -/
def overrideGraph (vars : Variables) (root : Nat) (g : Graph) : Overridden Graph :=
  applyAll (overrideWithin root) g (overridesIn vars)

/-- The line that tells of a variable that was applied. -/
def variableLine (v : String × String) : String := "Env override: " ++ v.1 ++ " = " ++ v.2

end Settings

end RoleSchema
