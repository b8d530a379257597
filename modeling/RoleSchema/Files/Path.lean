import RoleSchema.Text.Split

/-!
# Paths

A path is relative, absolute, or absolute with the two slashes that are kept apart from one; its
parts are names, none of them empty or `.`, while `..` is kept as it stands.
-/

namespace RoleSchema.Files

/-- Where a path begins. -/
inductive Root where
  | relative
  | absolute
  /-- Exactly two leading slashes. -/
  | doubled
  deriving DecidableEq, Repr

/-- The text before the parts. -/
def Root.text : Root → String
  | .relative => ""
  | .absolute => "/"
  | .doubled => "//"

/-- A path. -/
structure Path where
  root : Root := .relative
  parts : List String := []
  deriving DecidableEq, Repr

/-- Whether a piece is a part of a path. -/
def isPart (piece : List Char) : Bool := piece ≠ [] && piece ≠ ['.']

namespace Path

/-- The root that leading slashes stand for. -/
def rootOf : List Char → Root
  | '/' :: '/' :: '/' :: _ => .absolute
  | '/' :: '/' :: _ => .doubled
  | '/' :: _ => .absolute
  | _ => .relative

/-- The path that a text stands for. -/
def ofText (s : String) : Path where
  root := rootOf s.toList
  parts := ((Text.splitOn '/' s.toList).filter isPart).map String.ofList

/-- The text of a path; a path without parts is the current directory or the root. -/
def text (p : Path) : String :=
  match p.root, p.parts with
  | .relative, [] => "."
  | r, parts => r.text ++ "/".intercalate parts

/-- One path inside another; an absolute path replaces what it is put into. -/
def join (p q : Path) : Path :=
  match q.root with
  | .relative => ⟨p.root, p.parts ++ q.parts⟩
  | _ => q

/-- The path without its last part. -/
def parent (p : Path) : Path := ⟨p.root, p.parts.dropLast⟩

/-- The last part. -/
def name (p : Path) : String := p.parts.getLast?.getD ""

end Path

instance : HDiv Path String Path := ⟨fun p s => p.join (Path.ofText s)⟩

end RoleSchema.Files
