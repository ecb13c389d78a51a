import PatternLint.Correction.Apply
import PatternLint.Files.Place
import PatternLint.Text.Utf8

/-! Reading and writing files. A file is replaced whole or left as it was. -/

namespace PatternLint

/-- A file that cannot be read, and why. -/
structure ReadError where
  path : Path
  reason : String
deriving DecidableEq

def ReadError.message (e : ReadError) : String := s!"Failed to read {e.path}: {e.reason}"

def LookupError.reason : LookupError → String
  | missing => "file does not exist"
  | throughFile => "Not a directory"

namespace Tree

def readText (t : Tree) (path : Path) : Except ReadError Text :=
  match t.locate path with
  | .error e => .error ⟨path, e.reason⟩
  | .ok (_, .directory) => .error ⟨path, "Is a directory"⟩
  | .ok (_, .file bytes) =>
    match Utf8.decode bytes with
    | .ok text => .ok text
    | .error e => .error ⟨path, s!"not valid UTF-8 ({e.message})"⟩

def readSource (t : Tree) (path : Path) : Except ReadError Source := do
  return ⟨← t.readText path, some path⟩

/-- What stands in the way of a file at a path; the directory that holds it is given if nothing
does. What has no name of its own cannot be replaced: the root, the working directory, and a path
that ends in `..`. -/
def obstacle (t : Tree) (path : Path) : Except String Names :=
  match t.locate path.parent with
  | .error .missing => .error "No such file or directory"
  | .error .throughFile => .error "Not a directory"
  | .ok (_, .file _) => .error "Not a directory"
  | .ok (parent, .directory) =>
    if path.segments = [] ∨ path.name = ".." then .error "Device or resource busy"
    else if t.find? (parent ++ [path.name]) = some .directory then .error "Is a directory"
    else .ok parent

/-- What is at the place of the directory of a path, where a text is first written. -/
def beside (t : Tree) (path : Path) : Except LookupError (Names × Entry) :=
  t.follow [] (t.place path.parent)

/-- Writes a text to a path. It is first written beside it, and then takes the place of what the
path names. -/
def writeText (path : Path) (contents : Text) (t : Tree) : Except WriteError Unit × Tree :=
  match t.beside path with
  | .error .missing => (.error .noParent, t)
  | .error .throughFile => (.error .parentIsFile, t)
  | .ok (_, .file _) => (.error .parentIsFile, t)
  | .ok (_, .directory) =>
    match t.obstacle path with
    | .error reason => (.error (.refused path reason), t)
    | .ok parent => (.ok (), t.put (parent ++ [path.name]) (.file (Utf8.encode contents)))

/-- The writer of files in a tree. -/
def writer : Writer Tree := writeText

/-- Why a directory cannot be made. -/
inductive MakeError where
  | fileExists
  | throughFile
deriving DecidableEq

/-- Makes a directory and all above it, given its root and the segments from the last to the first.
Directories made on the way to a failure stay. -/
def makeDirectory (t : Tree) (root : String) : List String → Except MakeError Unit × Tree
  | [] => (.ok (), t)
  | s :: above =>
    let path : Path := ⟨root, (s :: above).reverse⟩
    match t.locate path with
    | .ok (_, .directory) => (.ok (), t)
    | .ok (_, .file _) => (.error .fileExists, t)
    | .error .throughFile => (.error .throughFile, t)
    | .error .missing =>
      match t.makeDirectory root above with
      | (.error e, t) => (.error e, t)
      | (.ok (), t) =>
        match t.locate ⟨root, above.reverse⟩ with
        | .ok (names, .directory) =>
          if s = ".." then (.ok (), t) else (.ok (), t.put (names ++ [s]) .directory)
        | _ => (.error .throughFile, t)

/-- Why a new file cannot be saved. -/
inductive SaveError where
  | directory (e : MakeError)
  | isDirectory
  | unreachable (e : LookupError)
deriving DecidableEq

def SaveError.reason : SaveError → String
  | directory .fileExists => "File exists"
  | directory .throughFile => "Not a directory"
  | isDirectory => "Is a directory"
  | unreachable e => e.reason

/-- Writes a text under a path, after making the directories above it. -/
def save (path : Path) (contents : Text) (t : Tree) : Except SaveError Unit × Tree :=
  match t.makeDirectory path.root path.parent.segments.reverse with
  | (.error e, t) => (.error (.directory e), t)
  | (.ok (), t) =>
    let entry := Entry.file (Utf8.encode contents)
    if path.name = ".." then (.error .isDirectory, t)
    else
      match t.locate path, t.locate path.parent with
      | .ok (_, .directory), _ => (.error .isDirectory, t)
      | .ok (names, .file _), _ => (.ok (), t.put names entry)
      | .error _, .ok (names, .directory) => (.ok (), t.put (names ++ [path.name]) entry)
      | .error e, _ => (.error (.unreachable e), t)

end Tree

end PatternLint
