import PatternLint.Yaml.Scalar

/-! From text to tokens. Indentation opens and closes blocks; a key is known only by the colon
behind it, so places where a key may have begun are kept until the colon comes or cannot come. -/

namespace PatternLint.Yaml

/-- A place where a key may have begun. -/
structure PossibleKey where
  /-- The flow level it belongs to. -/
  level : Nat
  /-- The number of tokens before it. -/
  before : Nat
  /-- Nothing else could stand here. -/
  required : Bool
  index : Nat
  line : Nat
  column : Nat

structure Lexer where
  rest : Text
  index : Nat := 0
  line : Nat := 0
  column : Nat := 0
  /-- How many flow collections are open. -/
  level : Nat := 0
  /-- The column of the innermost block; none is open at -1. -/
  indent : Int := -1
  indents : List Int := []
  keyAllowed : Bool := true
  keys : List PossibleKey := []
  tokens : List Token := []

namespace Lexer

/-- A byte order mark has no width. -/
def step (x : Lexer) (c : Char) : Lexer :=
  if isBreak c then { x with index := x.index + 1, line := x.line + 1, column := 0 }
  else if c = '\ufeff' then { x with index := x.index + 1 }
  else { x with index := x.index + 1, column := x.column + 1 }

/-- Moves on to `rest`, a later part of the text. -/
def moveTo (x : Lexer) (rest : Text) : Lexer :=
  { (x.rest.take (x.rest.length - rest.length)).foldl step x with rest := rest }

def skip (x : Lexer) (n : Nat) : Lexer := x.moveTo (x.rest.drop n)

def push (x : Lexer) (t : Token) : Lexer := { x with tokens := x.tokens ++ [t] }

def insert (x : Lexer) (before : Nat) (t : Token) : Lexer :=
  { x with tokens := x.tokens.take before ++ t :: x.tokens.drop before }

/-- Spaces, comments and breaks; whether a break was among them. -/
def gapFrom (comment crossed : Bool) : Text → Text × Bool
  | [] => ([], crossed)
  | c :: s =>
    if isBreak c then gapFrom false true s
    else if comment then gapFrom true crossed s
    else if c = ' ' then gapFrom false crossed s
    else if c = '#' then gapFrom true crossed s
    else (c :: s, crossed)

/-- Moves to the next token. A new line in a block may begin with a key. -/
def skipGap (x : Lexer) : Lexer :=
  let start := if x.index = 0 ∧ x.rest.head? = some '\ufeff' then x.skip 1 else x
  let (rest, crossed) := gapFrom false false start.rest
  let x := start.moveTo rest
  if crossed ∧ x.level = 0 then { x with keyAllowed := true } else x

/-- Gives up the keys that would span lines or too much text. -/
def dropStale (x : Lexer) : Except Error Lexer :=
  let stale (k : PossibleKey) : Bool := k.line ≠ x.line || x.index - k.index > 1024
  if x.keys.any fun k => stale k && k.required then .error .keyWithoutColon
  else .ok { x with keys := x.keys.filter (!stale ·) }

/-- Gives up the possible key of this level. -/
def dropKey (x : Lexer) : Except Error Lexer :=
  if x.keys.any fun k => k.level = x.level && k.required then .error .keyWithoutColon
  else .ok { x with keys := x.keys.filter (·.level ≠ x.level) }

/-- Keeps this place, if a key may begin here. -/
def keepKey (x : Lexer) : Except Error Lexer :=
  if x.keyAllowed then do
    let x ← x.dropKey
    let key : PossibleKey := {
      level := x.level, before := x.tokens.length
      required := x.level = 0 && x.indent = x.column
      index := x.index, line := x.line, column := x.column }
    return { x with keys := key :: x.keys }
  else .ok x

/-- The blocks that are deeper than a column, from the innermost out. -/
def closeBlocks (column indent : Int) : List Int → Nat × Int × List Int
  | [] => (0, indent, [])
  | outer :: indents =>
    if column < indent then
      let (n, indent, indents) := closeBlocks column outer indents
      (n + 1, indent, indents)
    else (0, indent, outer :: indents)

/-- Closes the blocks that are deeper than a column. -/
def unwind (x : Lexer) (column : Int) : Lexer :=
  if x.level = 0 then
    let (n, indent, indents) := closeBlocks column x.indent x.indents
    { x with indent := indent, indents := indents
             tokens := x.tokens ++ List.replicate n .blockEnd }
  else x

/-- Opens a block at a column that is deeper than the innermost. -/
def open? (x : Lexer) (column : Nat) : Option Lexer :=
  if x.indent < column then
    some { x with indent := column, indents := x.indent :: x.indents }
  else none

/-- Pushes the start of a block, if one opens here. -/
def openBlock (x : Lexer) (start : Token) : Lexer :=
  match x.open? x.column with
  | some x => x.push start
  | none => x

def documentMark (x : Lexer) (t : Token) : Except Error Lexer := do
  let x ← (x.unwind (-1)).dropKey
  return ({ x with keyAllowed := false }.skip 3).push t

def flowStart (x : Lexer) (t : Token) : Except Error Lexer := do
  let x ← x.keepKey
  return ({ x with level := x.level + 1, keyAllowed := true }.skip 1).push t

def flowEnd (x : Lexer) (t : Token) : Except Error Lexer := do
  let x ← x.dropKey
  return ({ x with level := x.level - 1, keyAllowed := false }.skip 1).push t

def flowEntry (x : Lexer) : Except Error Lexer := do
  let x ← { x with keyAllowed := true }.dropKey
  return (x.skip 1).push .flowEntry

def blockEntry (x : Lexer) : Except Error Lexer := do
  if x.level = 0 ∧ !x.keyAllowed then throw .misplacedEntry
  let x := if x.level = 0 then x.openBlock .blockSequence else x
  let x ← { x with keyAllowed := true }.dropKey
  return (x.skip 1).push .blockEntry

def explicitKey (x : Lexer) : Except Error Lexer := do
  if x.level = 0 ∧ !x.keyAllowed then throw .misplacedKey
  let x := if x.level = 0 then x.openBlock .blockMapping else x
  let x ← { x with keyAllowed := x.level = 0 }.dropKey
  return (x.skip 1).push .key

/-- A colon makes a key of what began at the possible key of this level, if there is one. -/
def value (x : Lexer) : Except Error Lexer := do
  match x.keys.find? (·.level = x.level) with
  | some key =>
    let x := { x with keys := x.keys.filter (·.level ≠ x.level) }.insert key.before .key
    let x := if x.level = 0 then
        match x.open? key.column with
        | some x => x.insert key.before .blockMapping
        | none => x
      else x
    return ({ x with keyAllowed := false }.skip 1).push .value
  | none =>
    if x.level = 0 ∧ !x.keyAllowed then throw .misplacedValue
    let x := if x.level = 0 then x.openBlock .blockMapping else x
    let x ← { x with keyAllowed := x.level = 0 }.dropKey
    return (x.skip 1).push .value

def isNameChar (c : Char) : Bool := c.isAlphanum || c = '-' || c = '_'

/-- A name after its indicator; not every character may follow it. -/
def named (x : Lexer) (t : String → Token) : Except Error Lexer := do
  let x ← x.keepKey
  let name := (x.rest.drop 1).takeWhile isNameChar
  let rest := (x.rest.drop 1).dropWhile isNameChar
  if name = [] then throw .badAnchor
  if !(rest.head?.all fun c => isGap c || ['?', ':', ',', ']', '}', '%', '@', '`'].contains c) then
    throw .badAnchor
  return ({ x with keyAllowed := false }.moveTo rest).push (t (String.ofList name))

def isTagChar (c : Char) : Bool := c.isAlphanum || "-;/?:@&=+$,_.!~*'()[]%".toList.contains c

/-- The full name of a tag, and what follows it. Two handles are known. -/
def tagName : Text → Except Error (String × Text)
  | '<' :: s =>
    let name := s.takeWhile isTagChar
    match s.dropWhile isTagChar with
    | '>' :: rest => if name = [] then .error .badTag else .ok (String.ofList name, rest)
    | _ => .error .badTag
  | '!' :: s =>
    let name := s.takeWhile isTagChar
    if name = [] then .error .badTag
    else .ok ("tag:yaml.org,2002:" ++ String.ofList name, s.dropWhile isTagChar)
  | s =>
    if atGap s then .ok ("!", s)
    else
      let name := s.takeWhile isTagChar
      if name = [] ∨ name.contains '!' then .error .badTag
      else .ok ("!" ++ String.ofList name, s.dropWhile isTagChar)

def tag (x : Lexer) : Except Error Lexer := do
  let x ← x.keepKey
  let (name, rest) ← tagName (x.rest.drop 1)
  if !(rest.head?.all fun c => c = ' ' || isBreak c) then throw .badTag
  return ({ x with keyAllowed := false }.moveTo rest).push (.tag name)

def blockScalar (x : Lexer) (folded : Bool) : Except Error Lexer := do
  let x ← { x with keyAllowed := true }.dropKey
  let (text, rest) ← block folded (x.indent + 1).toNat (x.rest.drop 1)
  return (x.moveTo rest).push (.scalar text false)

def quotedScalar (x : Lexer) (double : Bool) : Except Error Lexer := do
  let x ← x.keepKey
  let (text, rest) ← quoted double (x.rest.drop 1)
  return ({ x with keyAllowed := false }.moveTo rest).push (.scalar text false)

def plainScalar (x : Lexer) : Except Error Lexer := do
  let x ← x.keepKey
  let p := plain (0 < x.level) (x.indent + 1).toNat x.rest
  return ({ x with keyAllowed := p.crossesLine }.moveTo p.rest).push (.scalar p.text true)

/-- Characters with which no plain scalar begins. -/
def indicators : List Char :=
  ['-', '?', ':', ',', '[', ']', '{', '}', '#', '&', '*', '!', '|', '>', '\'', '"', '%', '@', '`']

def startsPlain (flow : Bool) (c : Char) (s : Text) : Bool :=
  !(isGap c || indicators.contains c) ||
    (!atGap s && (c = '-' || (!flow && (c = '?' || c = ':'))))

/-- The next token, at a character that is followed by `s`. -/
def token (x : Lexer) (c : Char) (s : Text) : Except Error Lexer :=
  let flow := 0 < x.level
  if x.column = 0 ∧ atSeparator (c :: s) then
    x.documentMark (if c = '-' then .documentStart else .documentEnd)
  else
    match c with
    | '[' => x.flowStart .flowSequence
    | '{' => x.flowStart .flowMapping
    | ']' => x.flowEnd .flowSequenceEnd
    | '}' => x.flowEnd .flowMappingEnd
    | ',' => x.flowEntry
    | '*' => x.named .alias
    | '&' => x.named .anchor
    | '!' => x.tag
    | '\'' => x.quotedScalar false
    | '"' => x.quotedScalar true
    | _ =>
      if c = '-' ∧ atGap s then x.blockEntry
      else if c = '?' ∧ (flow ∨ atGap s) then x.explicitKey
      else if c = ':' ∧ (flow ∨ atGap s) then x.value
      else if c = '|' ∧ !flow then x.blockScalar false
      else if c = '>' ∧ !flow then x.blockScalar true
      else if startsPlain flow c s then x.plainScalar
      else .error .strayCharacter

/-- Reads with at most `fuel` tokens from the text; each takes a character. -/
def run : Nat → Lexer → Except Error (List Token)
  | 0, x => .ok x.tokens
  | fuel + 1, x => do
    let x ← x.skipGap.dropStale
    let x := x.unwind x.column
    match x.rest with
    | [] => do
      let x ← (x.unwind (-1)).dropKey
      return x.tokens
    | c :: s => do
      let x ← x.token c s
      run fuel x

end Lexer

def tokens (s : Text) : Except Error (List Token) :=
  Lexer.run (s.length + 1) { rest := s }

end PatternLint.Yaml
