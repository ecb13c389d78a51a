import PatternLint.Files.Tree

/-! Places: the names that a path comes to by its segments alone, whether or not anything is there.
A `..` takes back the name before it. -/

namespace PatternLint

def Names.step (names : Names) (segment : String) : Names :=
  if segment = ".." then names.dropLast else names ++ [segment]

namespace Tree

/-- The segments of a path from the root on. -/
def absolute (t : Tree) (path : Path) : List String :=
  if path.root = "" then t.cwd ++ path.segments else path.segments

def place (t : Tree) (path : Path) : Names := (t.absolute path).foldl Names.step []

end Tree

end PatternLint
