import PatternLint.Path

/-! Trees of files. Every entry has the names that lead to it from the root, which itself has none.
A path that is not spelled from the root starts in the working directory. -/

namespace PatternLint

inductive Entry where
  | directory
  | file (bytes : List UInt8)
deriving DecidableEq

abbrev Names := List String

structure Tree where
  entries : List (Names × Entry) := []
  /-- The names of the working directory. -/
  cwd : Names := []

/-- Why a path leads to no entry. -/
inductive LookupError where
  | missing
  /-- The path goes on behind a file. -/
  | throughFile
deriving DecidableEq

namespace Tree

def find? (t : Tree) (names : Names) : Option Entry :=
  if names = [] then some .directory else t.entries.lookup names

/-- Follows segments from a directory. A `..` leads to the directory above, and at the root nowhere
else. -/
def follow (t : Tree) (here : Names) : List String → Except LookupError (Names × Entry)
  | [] => .ok (here, .directory)
  | s :: rest =>
    if s = ".." then t.follow here.dropLast rest
    else
      match t.find? (here ++ [s]) with
      | none => .error .missing
      | some .directory => t.follow (here ++ [s]) rest
      | some (.file bytes) =>
        if rest = [] then .ok (here ++ [s], .file bytes) else .error .throughFile

/-- The directory that a path starts in. -/
def start (t : Tree) (path : Path) : Except LookupError Names :=
  if path.root = "" then
    match t.follow [] t.cwd with
    | .ok (names, .directory) => .ok names
    | _ => .error .missing
  else .ok []

/-- The entry of a path, with the names that lead to it. -/
def locate (t : Tree) (path : Path) : Except LookupError (Names × Entry) :=
  match t.start path with
  | .ok here => t.follow here path.segments
  | .error e => .error e

def isFile (t : Tree) (path : Path) : Bool :=
  match t.locate path with
  | .ok (_, .file _) => true
  | _ => false

def isDirectory (t : Tree) (path : Path) : Bool :=
  match t.locate path with
  | .ok (_, .directory) => true
  | _ => false

/-- Gives the names an entry; an entry that they had is replaced in its place. -/
def put (t : Tree) (names : Names) (entry : Entry) : Tree :=
  if names = [] then t
  else if (t.entries.lookup names).isSome then
    { t with entries := t.entries.map fun e => if e.1 = names then (names, entry) else e }
  else { t with entries := t.entries ++ [(names, entry)] }

def remove (t : Tree) (names : Names) : Tree :=
  { t with entries := t.entries.filter (·.1 ≠ names) }

/-- Makes a directory of the names, and of every shorter start of them. -/
def makeAll (t : Tree) (names : Names) : Tree :=
  ((List.range (names.length + 1)).map names.take).foldl
    (fun t start => if (t.find? start).isSome then t else t.put start .directory) t

/-- The last names of the entries of a directory, in order. -/
def list (t : Tree) (names : Names) : List String :=
  (t.entries.filterMap fun e => if e.1.dropLast = names then e.1.getLast? else none).mergeSort
    fun a b => decide (a ≤ b)

end Tree

end PatternLint
