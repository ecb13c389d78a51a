/-! Commands and their options. A flag stands alone; a field takes a value. -/

namespace PatternLint.CommandLine

inductive Command where
  | lint
  | autocorrect
  | rules
deriving DecidableEq

inductive Flag where
  | help
  | version
  | verbose
  | strict
  | verify
deriving DecidableEq

inductive Field where
  | config
  | format
  | output
deriving DecidableEq

inductive Key where
  | flag (f : Flag)
  | field (f : Field)
deriving DecidableEq

namespace Command

def name : Command → String
  | lint => "lint"
  | autocorrect => "autocorrect"
  | rules => "rules"

def all : List Command := [lint, autocorrect, rules]

def ofName? (name : String) : Option Command := all.find? fun c => c.name = name

end Command

namespace Key

/-- The spellings of an option. One dash comes before a letter, and only flags have letters. -/
def spellings : Key → List String
  | flag .help => ["-h", "--help"]
  | flag .version => ["--version"]
  | flag .verbose => ["--verbose", "-v"]
  | flag .strict => ["--strict"]
  | flag .verify => ["--verify"]
  | field .config => ["--config"]
  | field .format => ["--format"]
  | field .output => ["--out", "--output"]

def shown (k : Key) : String := String.intercalate "/" k.spellings

end Key

/-- The options that come before a command. -/
def programKeys : List Key := [.flag .help, .flag .version]

/-- The options of the commands that look at files. -/
def fileKeys : List Key :=
  [.flag .help, .field .config, .field .format, .field .output, .flag .verbose]

def Command.keys : Command → List Key
  | lint => fileKeys ++ [.flag .strict]
  | autocorrect => fileKeys
  | rules => [.flag .help, .flag .verify, .flag .verbose]

/-- The format of a report. -/
inductive Format where
  | text
  | json
deriving DecidableEq

namespace Format

def name : Format → String
  | text => "text"
  | json => "json"

def all : List Format := [text, json]

def ofName? (name : String) : Option Format := all.find? fun f => f.name = name

end Format

end PatternLint.CommandLine
