import RoleSchema.Data.Graph.Merge
import RoleSchema.Files.Store
import RoleSchema.Settings.Check
import RoleSchema.Settings.Environment
import RoleSchema.Yaml.Cursor

/-!
# Faults of settings

Why settings cannot be loaded. Some faults are expected: the settings themselves are at fault, and a
run reports that. The others break a run off.
-/

namespace RoleSchema.Settings

open Files (Path FileFault)

/-- Why settings cannot be loaded. -/
inductive LoadFault where
  /-- The home directory cannot be told. -/
  | homeless
  | missing (path : Path)
  | unreadable (fault : FileFault)
  /-- A file cannot be read as settings. -/
  | unparsed (path : Path) (fault : Yaml.Fault)
  /-- A document of the base file is no mapping. -/
  | notMapping (path : Path)
  /-- The document for the environment is no mapping. -/
  | environmentNotMapping (document : Value)
  | merging (fault : MergeFault)
  | overridden (fault : OverrideFault)
  | invalid (issues : List Issue)
  | aborted (cause : Abort)
  deriving Repr

namespace LoadFault

/-- The wording of a fault. -/
def message : LoadFault → String
  | .homeless => "Could not determine home directory."
  | .missing path => "Configuration file not found: " ++ path.text
  | .unreadable fault => fault.message
  | .unparsed path .malformed => "Cannot parse " ++ path.text
  | .unparsed path (.unknownTag tag) =>
    "Cannot parse " ++ path.text ++ ": " ++ (Yaml.Fault.unknownTag tag).message
  | .unparsed _ fault => fault.message
  | .notMapping path => "Configuration must be a mapping: " ++ path.text
  | .environmentNotMapping v => "'" ++ v.sortName ++ "' object has no attribute 'items'"
  | .merging fault => fault.message
  | .overridden fault => fault.message
  | .invalid issues => "Invalid configuration: " ++ Issue.report issues
  | .aborted cause => cause.message

/-- Whether a fault is one of the settings themselves, which is reported as such. -/
def isExpected : LoadFault → Bool
  | .missing _ | .notMapping _ | .invalid _ => true
  | .unparsed _ fault => fault.isOfNotation
  | _ => false

end LoadFault

end RoleSchema.Settings
