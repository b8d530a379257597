import RoleSchema.Files.Path
import RoleSchema.Text.Encoding

/-!
# File stores

A store holds directories and files with their bytes, each under its parts from the root on, the
directory in which relative paths begin, and the encodings that are installed. `Store.resolve`
follows a path through the directories; `makeDirectories` and `write` change the store.
-/

namespace RoleSchema.Files

/-- A place in a store: the names from the root down. -/
abbrev Place := List String

/-- A store of files. -/
structure Store where
  directories : List Place := []
  files : List (Place × List UInt8) := []
  /-- Where relative paths begin. -/
  here : Place := []
  /-- The encodings that can be looked up by a name. -/
  codecs : Text.Codecs := fun _ => none

/-- Why an operation on files fails. -/
inductive FileProblem where
  | notFound
  | exists
  | notDirectory
  | isDirectory
  /-- A path with a null character. -/
  | nullCharacter
  /-- A name with too many bytes, or a path of them. -/
  | nameTooLong
  deriving DecidableEq, Repr

/-- A failed operation and the path it was about. -/
structure FileFault where
  problem : FileProblem
  path : Path
  deriving DecidableEq, Repr

/-- The wording of a fault. -/
def FileFault.message (f : FileFault) : String :=
  let about := ": " ++ Text.quoted f.path.text
  match f.problem with
  | .notFound => "[Errno 2] No such file or directory" ++ about
  | .exists => "[Errno 17] File exists" ++ about
  | .notDirectory => "[Errno 20] Not a directory" ++ about
  | .isDirectory => "[Errno 21] Is a directory" ++ about
  | .nullCharacter => "embedded null byte"
  | .nameTooLong => "[Errno 36] File name too long" ++ about

namespace Store

variable (s : Store)

/-- Whether a place is a directory; the root always is. -/
def hasDirectory (p : Place) : Bool := p.isEmpty || s.directories.contains p

/-- The bytes of the file at a place. -/
def file? (p : Place) : Option (List UInt8) := s.files.lookup p

/-- The place that a path begins at. -/
def start (root : Root) : Place :=
  match root with
  | .relative => s.here
  | _ => []

/-- The bytes that a name can have. -/
def maxName : Nat := 255

/-- The bytes that the text of a path can have. -/
def maxPath : Nat := 4095

/-- Follows parts from a directory. Every part but the last must be a directory; the last need not
exist. -/
def follow (place : Place) : List String → Except FileProblem Place
  | [] => .ok place
  | part :: rest =>
    let next := if part = ".." then place.dropLast else place ++ [part]
    if maxName < part.utf8ByteSize then .error .nameTooLong
    else if rest.isEmpty || s.hasDirectory next then follow next rest
    else if (s.file? next).isSome then .error .notDirectory
    else .error .notFound

/-- The place that a path leads to. -/
def resolve (p : Path) : Except FileProblem Place :=
  if p.parts.any fun part => part.toList.contains '\x00' then .error .nullCharacter
  else if maxPath < p.text.utf8ByteSize then .error .nameTooLong
  else s.follow (s.start p.root) p.parts

/-- What is at the end of a path. -/
inductive Status where
  | absent
  | directory
  | file (bytes : List UInt8)
  deriving DecidableEq, Repr

/-- What is at the end of a path. -/
def status (p : Path) : Status :=
  match s.resolve p with
  | .error _ => .absent
  | .ok place =>
    if s.hasDirectory place then .directory
    else
      match s.file? place with
      | some bytes => .file bytes
      | none => .absent

/-- Whether there is a file or a directory at the end of a path; names that are too long are no
answer. -/
def pathExists (p : Path) : Except FileFault Bool :=
  match s.resolve p with
  | .error .nameTooLong => .error ⟨.nameTooLong, p⟩
  | _ => .ok (s.status p ≠ .absent)

/-- Whether there is a directory at the end of a path. -/
def isDirectory (p : Path) : Bool := s.status p == .directory

/-- The bytes of the file at the end of a path. -/
def read (p : Path) : Except FileFault (List UInt8) :=
  match s.resolve p with
  | .error problem => .error ⟨problem, p⟩
  | .ok place =>
    if s.hasDirectory place then .error ⟨.isDirectory, p⟩
    else
      match s.file? place with
      | some bytes => .ok bytes
      | none => .error ⟨.notFound, p⟩

/-- Makes one directory. -/
def makeDirectory (p : Path) : Except FileFault Store :=
  match s.resolve p with
  | .error problem => .error ⟨problem, p⟩
  | .ok place =>
    if s.hasDirectory place || (s.file? place).isSome then .error ⟨.exists, p⟩
    else .ok { s with directories := s.directories ++ [place] }

/-- Makes a directory unless it is there. -/
def ensureDirectory (p : Path) : Except FileFault Store :=
  match s.makeDirectory p with
  | .ok s => .ok s
  | .error fault => if s.isDirectory p then .ok s else .error fault

end Store

/-- Makes a directory and those above it that are missing. The parts are given from the last on. -/
def Store.makeParts (root : Root) (s : Store) : List String → Except FileFault Store
  | [] => .ok s
  | part :: above =>
    let p : Path := ⟨root, (part :: above).reverse⟩
    match s.makeDirectory p with
    | .ok s => .ok s
    | .error ⟨.notFound, _⟩ => do
      let s ← makeParts root s above
      s.ensureDirectory p
    | .error fault => if s.isDirectory p then .ok s else .error fault

/-- Makes a directory and those above it, as far as they are missing. -/
def Store.makeDirectories (s : Store) (p : Path) : Except FileFault Store :=
  s.makeParts p.root p.parts.reverse

/-- Binds a place to bytes: in its old position if it held a file, otherwise at the end. -/
def setFile (place : Place) (bytes : List UInt8) :
    List (Place × List UInt8) → List (Place × List UInt8)
  | [] => [(place, bytes)]
  | (q, old) :: rest =>
    if q = place then (q, bytes) :: rest else (q, old) :: setFile place bytes rest

/-- The place at which a path can hold a file. -/
def Store.filePlace (s : Store) (p : Path) : Except FileFault Place :=
  match s.resolve p with
  | .error problem => .error ⟨problem, p⟩
  | .ok place => if s.hasDirectory place then .error ⟨.isDirectory, p⟩ else .ok place

/-- Writes a file, over what it held before. -/
def Store.write (s : Store) (p : Path) (bytes : List UInt8) : Except FileFault Store :=
  (s.filePlace p).map fun place => { s with files := setFile place bytes s.files }

/-- Adds bytes at the end of a file, which need not exist. -/
def Store.append (s : Store) (p : Path) (bytes : List UInt8) : Except FileFault Store :=
  (s.filePlace p).map fun place =>
    { s with files := setFile place ((s.file? place).getD [] ++ bytes) s.files }

end RoleSchema.Files
