import PatternLint.CommandLine.Misuse
import PatternLint.Text.Basic
import PatternLint.Text.Digit

/-! Arguments told apart: options of a command, and words. An option of two dashes may be cut short
where no other option begins the same way. -/

namespace PatternLint.CommandLine

/-- What an argument is, as far as its spelling tells. -/
inductive Token where
  | word
  /-- Two dashes alone: only words come after them. -/
  | separator
  | key (key : Key) (value? : Option Text)
  /-- A flag of one letter, with what is written after it. -/
  | letter (flag : Flag) (rest : Text)
  | unknown
deriving DecidableEq

namespace Token

def spelled (keys : List Key) : List (String × Key) :=
  keys.flatMap fun k => k.spellings.map fun s => (s, k)

/-- The flag that a letter stands for. -/
def flagOf? (keys : List Key) (c : Char) : Option Flag :=
  match (spelled keys).lookup (String.ofList ['-', c]) with
  | some (.flag f) => some f
  | _ => none

/-- The name of a long option and the value after its first equals sign. -/
def split (argument : Text) : Text × Option Text :=
  let rest := argument.dropWhile (· ≠ '=')
  (argument.takeWhile (· ≠ '='), rest.tail?)

/-- Digits with at most one point, which digits follow. -/
def isUnsigned (s : Text) : Bool :=
  match s.dropWhile isDecimal with
  | [] => s ≠ []
  | '.' :: fraction => fraction ≠ [] && fraction.all isDecimal
  | _ => false

/-- One line break may end a number. -/
def isNegativeNumber (argument : Text) : Bool :=
  let line := if argument.getLast? = some '\n' then argument.dropLast else argument
  match line with
  | '-' :: s => isUnsigned s
  | _ => false

/-- What begins with a dash and is no option: a word if it is a number or has a space in it. -/
def ofUnspelled (argument : Text) : Token :=
  if isNegativeNumber argument || argument.contains ' ' then word else unknown

/-- A spelling that stands in full wins over longer ones. -/
def ofLong (keys : List Key) (argument : Text) : Except Fault Token :=
  let (name, value?) := split argument
  match (spelled keys).lookup (String.ofList name) with
  | some k => .ok (key k value?)
  | none =>
    match (spelled keys).filter fun s => name.isPrefixOf s.1.toList with
    | [] => .ok (ofUnspelled argument)
    | [(_, k)] => .ok (key k value?)
    | several => .error (.ambiguous (String.ofList argument) (several.map Prod.fst))

def ofArgument (keys : List Key) (argument : String) : Except Fault Token :=
  match argument.toList with
  | '-' :: '-' :: s => ofLong keys ('-' :: '-' :: s)
  | '-' :: c :: s =>
    match flagOf? keys c with
    | some f => .ok (letter f s)
    | none => .ok (ofUnspelled ('-' :: c :: s))
  | _ => .ok word

/-- Arguments with their tokens. -/
def ofArguments (keys : List Key) : List String → Except Fault (List (String × Token))
  | [] => .ok []
  | a :: rest =>
    if a = "--" then .ok ((a, separator) :: rest.map fun b => (b, word))
    else do
      let token ← ofArgument keys a
      return (a, token) :: (← ofArguments keys rest)

end Token

end PatternLint.CommandLine
