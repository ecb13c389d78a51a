import PatternLint.Files.Place

/-! The files that a run looks at: those that its roots name, and those at any depth below roots
that are directories. -/

namespace PatternLint.Discovery

/-- Whether `a` may stand before `b`: name by name, by code points. -/
def namesBefore : Names → Names → Bool
  | [], _ => true
  | _ :: _, [] => false
  | a :: as, b :: bs => if a = b then namesBefore as bs else decide (a < b)

/-- The names of the entries below a directory, without those of the directory itself, ordered
segment by segment. -/
def below (t : Tree) (names : Names) : List Names :=
  (t.entries.filterMap fun e =>
    if names.isPrefixOf e.1 ∧ names.length < e.1.length then some (e.1.drop names.length)
    else none).mergeSort namesBefore

/-- The paths that a root stands for, spelled from the root on. -/
def candidates (t : Tree) (root : Path) : List Path :=
  match t.locate root with
  | .ok (_, .file _) => [root]
  | .ok (names, .directory) =>
    (below t names).map fun rest => { root with segments := root.segments ++ rest }
  | .error _ => []

/-- Whether a path has a wanted extension and names a file that is not at an excluded place or below
one. -/
def isWanted (t : Tree) (extensions : List String) (excluded : List Names) (path : Path) : Bool :=
  extensions.contains path.suffix && t.isFile path &&
    !excluded.any fun root => root.isPrefixOf (t.place path)

/-- Drops the paths of files that were already seen. -/
def unseen (t : Tree) (seen : List Names) : List Path → List Path
  | [] => []
  | path :: rest =>
    let place := t.place path
    if seen.contains place then unseen t seen rest else path :: unseen t (place :: seen) rest

/-- The files of the roots with one of the extensions, in the order of the roots, except those
within an excluded path. Each file stands at the first root that leads to it. -/
def files (t : Tree) (roots extensions excluded : List String) : List Path :=
  let excluded := excluded.map fun p => t.place (.ofString p)
  unseen t [] ((roots.flatMap fun root => candidates t (.ofString root)).filter
    (isWanted t extensions excluded))

end PatternLint.Discovery
