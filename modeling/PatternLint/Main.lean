import PatternLint.CommandLine.Run
import PatternLint.Yaml.Load

/-! The program: it reads files as a tree, runs, and writes back what has changed. The tree holds
the working directory and what the arguments name elsewhere; what only a configuration names outside
of these is not read. -/

namespace PatternLint.Program

def fileAt (names : Names) : IO.FS.DirEntry := ⟨"", String.intercalate "/" names⟩

/-- The entries from the names on. Links are not followed, and what cannot be read is left out. -/
partial def readFrom (names : Names) : IO (List (Names × Entry)) := do
  let path := (fileAt names).path
  try
    match (← path.symlinkMetadata).type with
    | .dir =>
      let below ← (← path.readDir).toList.mapM fun child => readFrom (names ++ [child.fileName])
      return (names, .directory) :: below.flatten
    | .file => return [(names, .file (← IO.FS.readBinFile path).toList)]
    | _ => return []
  catch _ => return []

/-- The names to read from; where one place is below another, the upper one is enough. -/
def tops (cwd : Names) (arguments : List String) : List Names :=
  let placeOf (s : String) : Names := ({ cwd } : Tree).place (.ofString s)
  let places := cwd :: (arguments.flatMap fun a => a.splitOn "=").map placeOf
  (places.filter fun a => !places.any fun b => a ≠ b && b.isPrefixOf a).eraseDups

def readTree (arguments : List String) : IO Tree := do
  let cwd := (Path.ofString (← IO.currentDir).toString).segments
  let tops := tops cwd arguments
  let above := (tops.flatMap fun names => (List.range names.length).map names.take).eraseDups
  let directories ← above.filterM fun names => (fileAt names).path.isDir
  return {
    entries := directories.map (·, .directory) ++ (← tops.mapM readFrom).flatten
    cwd }

def writeEntry (names : Names) (entry : Entry) : IO Unit :=
  let path := (fileAt names).path
  match entry with
  | .directory => IO.FS.createDirAll path
  | .file bytes => IO.FS.writeBinFile path ⟨bytes.toArray⟩

/-- Writes the entries that were not there before. -/
def writeChanges (before after : Tree) : IO Unit := do
  for (names, entry) in after.entries do
    if before.find? names ≠ some entry then writeEntry names entry

def run (arguments : List String) : IO UInt32 := do
  let before ← readTree arguments
  let (result, after) := CommandLine.run Yaml.loader before arguments
  writeChanges before after
  match result with
  | .error e =>
    IO.eprintln e.message
    return 1
  | .ok output =>
    IO.print output.stdout
    IO.eprint output.stderr
    return output.exit.toUInt32

end PatternLint.Program

def main (arguments : List String) : IO UInt32 := PatternLint.Program.run arguments
