import PatternLint.CommandLine.Token

/-! What a command line asks for. Arguments are read from the left; the first fault counts, but
arguments that mean nothing are only reported where nothing else is wrong. -/

namespace PatternLint.CommandLine

/-- What the options of a command set. -/
structure Settings where
  paths : List String := []
  config : Option String := none
  format : Format := .text
  output : Option String := none
  verbose : Bool := false
  strict : Bool := false
  verify : Bool := false
deriving DecidableEq

namespace Settings

/-- The later of two values of one option counts. -/
def assign (s : Settings) (value : String) : Field → Except Fault Settings
  | .config => .ok { s with config := some value }
  | .output => .ok { s with output := some value }
  | .format =>
    match Format.ofName? value with
    | some f => .ok { s with format := f }
    | none => .error (.unknownFormat value)

def raise (s : Settings) : Flag → Settings
  | .verbose => { s with verbose := true }
  | .strict => { s with strict := true }
  | .verify => { s with verify := true }
  | .help | .version => s

end Settings

/-- Where the paths of a command line stand: they are one run of words. -/
inductive Position where
  | ahead
  | here
  | behind
deriving DecidableEq

/-- A command line as far as it has been read. -/
structure Reading where
  settings : Settings := {}
  position : Position
  extras : List String := []
deriving DecidableEq

inductive Request where
  | help (command : Option Command)
  | version
  | run (command : Command) (settings : Settings)
deriving DecidableEq

namespace Reading

/-- The reading of a command that takes paths or takes none. -/
def start : Command → Reading
  | .rules => { position := .behind }
  | _ => { position := .ahead }

def extra (r : Reading) (argument : String) : Reading :=
  { r with extras := r.extras ++ [argument] }

/-- The words of the first run are paths. -/
def word (r : Reading) (argument : String) : Reading :=
  if r.position = .behind then r.extra argument
  else { r with position := .here, settings.paths := r.settings.paths ++ [argument] }

def separator (r : Reading) (argument : String) : Reading :=
  if r.position = .behind then r.extra argument else { r with position := .here }

/-- An option ends a run of words. -/
def option (r : Reading) : Reading := if r.position = .here then { r with position := .behind } else r

def raise (r : Reading) (flags : List Flag) : Reading :=
  { r with settings := flags.foldl Settings.raise r.settings }

end Reading

/-- A letter and those after it as flags; from the first letter that is none, what is left stands
for an argument of its own. -/
def letters (keys : List Key) (flag : Flag) : Text → Except Fault (List Flag × List String)
  | [] => .ok ([flag], [])
  | '=' :: value => .error (.unwantedValue (.flag flag) (String.ofList value))
  | '-' :: s => .error (.unwantedValue (.flag flag) (String.ofList ('-' :: s)))
  | c :: s =>
    match Token.flagOf? keys c with
    | none => .ok ([flag], [String.ofList ('-' :: c :: s)])
    | some next => do
      let (flags, rest) ← letters keys next s
      return (flag :: flags, rest)

/-- Reads the arguments of a command; nothing comes of them if they ask for help. -/
def Reading.read (keys : List Key) : List (String × Token) → Reading → Except Fault (Option Reading)
  | [], r => .ok (some r)
  | (a, .word) :: rest, r => read keys rest (r.word a)
  | (a, .separator) :: rest, r => read keys rest (r.separator a)
  | (a, .unknown) :: rest, r => read keys rest (r.option.extra a)
  | (_, .letter f s) :: rest, r => do
    let (flags, extras) ← letters keys f s
    if flags.contains .help then return none
    read keys rest (extras.foldl extra (r.option.raise flags))
  | (_, .key (.flag f) (some value)) :: _, _ =>
    .error (.unwantedValue (.flag f) (String.ofList value))
  | (_, .key (.flag f) none) :: rest, r =>
    if f = .help then .ok none else read keys rest (r.option.raise [f])
  | (_, .key (.field f) (some value)) :: rest, r => do
    read keys rest { r.option with settings := ← r.settings.assign (String.ofList value) f }
  | (_, .key (.field f) none) :: (value, .word) :: rest, r => do
    read keys rest { r.option with settings := ← r.settings.assign value f }
  | (_, .key (.field f) none) :: _, _ => .error (.missingValue (.field f))

namespace Request

/-- Reads what follows a command, after arguments that mean nothing. -/
def ofCommand (before : List String) (c : Command) (arguments : List String) :
    Except Misuse Request :=
  match Token.ofArguments c.keys arguments >>= (Reading.read c.keys · (.start c)) with
  | .error e => .error ⟨some c, e⟩
  | .ok none => .ok (help (some c))
  | .ok (some r) =>
    match before ++ r.extras with
    | [] => .ok (run c r.settings)
    | extras => .error ⟨none, .unrecognized extras⟩

/-- Finds the command: the first word, to which all arguments after it belong. -/
def ofTokens (before : List String) : List (String × Token) → Except Misuse Request
  | [] => .error ⟨none, .missingCommand⟩
  | (a, .word) :: rest =>
    match Command.ofName? a with
    | some c => ofCommand before c (rest.map Prod.fst)
    | none => .error ⟨none, .unknownCommand a⟩
  | (a, .separator) :: rest =>
    .error ⟨none, if rest = [] then .missingCommand else .unknownCommand a⟩
  | (a, .unknown) :: rest => ofTokens (before ++ [a]) rest
  | (_, .letter f s) :: rest =>
    match letters programKeys f s with
    | .error e => .error ⟨none, e⟩
    | .ok (flags, extras) =>
      if flags.contains .help then .ok (help none) else ofTokens (before ++ extras) rest
  | (_, .key k (some value)) :: _ => .error ⟨none, .unwantedValue k (String.ofList value)⟩
  | (_, .key k none) :: _ => .ok (if k = .flag .version then version else help none)

def ofArguments (arguments : List String) : Except Misuse Request :=
  match Token.ofArguments programKeys arguments with
  | .error e => .error ⟨none, e⟩
  | .ok tokens => ofTokens [] tokens

end Request

end PatternLint.CommandLine
