import PatternLint.Configuration.Basic
import PatternLint.Files.Access
import PatternLint.Yaml.Loader

/-! Configurations from files. A file that is asked for must exist; the one in the working directory
need not. -/

namespace PatternLint

/-- What loading does not report as a fault of the configuration. -/
inductive LoadFailure where
  /-- The file holds no text. -/
  | undecodable (e : Utf8.DecodeError)
  | unforeseen (e : Unforeseen)
deriving DecidableEq

def LoadFailure.message : LoadFailure → String
  | undecodable e => e.message
  | unforeseen e => e.message

/-- Why no configuration can be loaded. -/
inductive LoadError where
  | configuration (e : ConfigurationError)
  | failure (e : LoadFailure)

def LoadError.ofFailure : Configuration.Failure → LoadError
  | .fault e => .configuration e
  | .unforeseen e => .failure (.unforeseen e)

/-- What loading comes to, with what is noted on the way. -/
structure Loaded where
  notes : List Note
  result : Except LoadError Configuration

namespace Configuration

def fileName : String := ".swiftguard.yml"

def readValue (loader : Yaml.Loader) (path : Path) (bytes : List UInt8) : Except LoadError Value :=
  match loader.load (.ofBytes bytes) with
  | .ok value => .ok value
  | .error (.invalid detail) => .error (.configuration (.malformed path detail))
  | .error (.undecodable e) => .error (.failure (.undecodable e))
  | .error (.unforeseen e) => .error (.failure (.unforeseen e))

def loadFile (loader : Yaml.Loader) (known : List String) (path : Path) (bytes : List UInt8) :
    Loaded :=
  match readValue loader path bytes with
  | .error e => ⟨[], .error e⟩
  | .ok value =>
    let found := notes known (some path) value
    match ofValue known (some path) value with
    | .error e => ⟨found, .error (.ofFailure e)⟩
    | .ok configuration => ⟨found ++ [.configurationLoaded path], .ok configuration⟩

def load (loader : Yaml.Loader) (t : Tree) (known : List String) (asked : Option String) : Loaded :=
  let path := Path.ofString (asked.getD fileName)
  match t.locate path, asked with
  | .ok (_, .file bytes), _ => loadFile loader known path bytes
  | _, some given => ⟨[], .error (.configuration (.fileNotFound given))⟩
  | _, none => ⟨[.configurationMissing fileName], .ok {}⟩

end Configuration

end PatternLint
