import PatternLint.Yaml.Token

/-! Nodes of a document, read from its tokens. An alias stands for the node of its anchor. -/

namespace PatternLint.Yaml

inductive Node where
  | scalar (tag : Option String) (text : Text) (plain : Bool)
  | sequence (tag : Option String) (items : List Node)
  | mapping (tag : Option String) (entries : List (Node × Node))

/-- An omitted node. -/
def Node.empty : Node := .scalar none [] true

/-- The tokens ahead, and the nodes of the anchors so far. -/
structure Reader where
  tokens : List Token
  anchors : List (String × Node) := []

abbrev Read := StateT Reader (Except Error)

namespace Read

def peek : Read (Option Token) := return (← get).tokens.head?

def skip : Read Unit := modify fun r => { r with tokens := r.tokens.tail }

/-- Takes a token if it comes next. -/
def accept (t : Token) : Read Bool := do
  if (← peek) = some t then
    skip
    return true
  else return false

def expect (t : Token) : Read Unit := do
  if !(← accept t) then throw .unexpectedToken

/-- Whether one of the tokens comes next. -/
def isNext (ts : List Token) : Read Bool := return (← peek).any ts.contains

def anchor? : Read (Option String) := do
  match ← peek with
  | some (.anchor name) => skip; return some name
  | _ => return none

def tag? : Read (Option String) := do
  match ← peek with
  | some (.tag name) => skip; return some name
  | _ => return none

/-- The anchor and the tag of a node, in either order. -/
def properties : Read (Option String × Option String) := do
  match ← anchor? with
  | some a => return (some a, ← tag?)
  | none =>
    let t ← tag?
    if t.isNone then return (none, none)
    return (← anchor?, t)

/-- Gives a node its anchor. -/
def register (anchor : Option String) (n : Node) : Read Node := do
  match anchor with
  | none => return n
  | some name =>
    if ((← get).anchors.lookup name).isSome then throw .repeatedAnchor
    modify fun r => { r with anchors := (name, n) :: r.anchors }
    return n

/-- Where a node stands: in a flow collection, in a block, or as the content of a block mapping,
which may be a sequence that is not indented. -/
inductive Place where
  | flow
  | block
  | mapped
deriving DecidableEq

mutual

/-- Every call has less fuel than its caller. -/
def node : Nat → Place → Read Node
  | 0, _ => throw .unexpectedToken
  | fuel + 1, place => do
    match ← peek with
    | some (.alias name) =>
      skip
      match (← get).anchors.lookup name with
      | some n => return n
      | none => throw .undefinedAlias
    | _ =>
      let (anchor, tag) ← properties
      let n ← content fuel place (anchor.isSome || tag.isSome) tag
      register anchor n

def content : Nat → Place → Bool → Option String → Read Node
  | 0, _, _, _ => throw .unexpectedToken
  | fuel + 1, place, hasProperties, tag => do
    match ← peek with
    | some (.scalar text plain) =>
      skip
      return .scalar tag text plain
    | some .flowSequence =>
      skip
      return .sequence tag (← flowItems fuel true)
    | some .flowMapping =>
      skip
      return .mapping tag (← flowEntries fuel true)
    | t =>
      if place = .mapped ∧ t = some .blockEntry then
        return .sequence tag (← looseItems fuel)
      else if place ≠ .flow ∧ t = some .blockSequence then
        skip
        return .sequence tag (← blockItems fuel)
      else if place ≠ .flow ∧ t = some .blockMapping then
        skip
        return .mapping tag (← blockEntries fuel)
      else if hasProperties then return .scalar tag [] true
      else throw .unexpectedToken

/-- A node, unless one of the tokens comes next. -/
def nodeUnless : Nat → Place → List Token → Read Node
  | 0, _, _ => throw .unexpectedToken
  | fuel + 1, place, ts => do
    if (← peek).isNone ∨ (← isNext ts) then return .empty else node fuel place

def blockItems : Nat → Read (List Node)
  | 0 => throw .unexpectedToken
  | fuel + 1 => do
    if ← accept .blockEntry then
      let n ← nodeUnless fuel .block [.blockEntry, .blockEnd]
      return n :: (← blockItems fuel)
    else
      expect .blockEnd
      return []

/-- Items of a sequence that is not indented; no token ends it. -/
def looseItems : Nat → Read (List Node)
  | 0 => throw .unexpectedToken
  | fuel + 1 => do
    if ← accept .blockEntry then
      let n ← nodeUnless fuel .block [.blockEntry, .key, .value, .blockEnd]
      return n :: (← looseItems fuel)
    else return []

def blockEntries : Nat → Read (List (Node × Node))
  | 0 => throw .unexpectedToken
  | fuel + 1 => do
    let ends : List Token := [.key, .value, .blockEnd]
    if ← accept .key then
      let key ← nodeUnless fuel .mapped ends
      let value ← if ← accept .value then nodeUnless fuel .mapped ends else pure .empty
      return (key, value) :: (← blockEntries fuel)
    else
      expect .blockEnd
      return []

/-- Items of a flow sequence; a key makes an item of one entry. -/
def flowItems : Nat → Bool → Read (List Node)
  | 0, _ => throw .unexpectedToken
  | fuel + 1, first => do
    if ← accept .flowSequenceEnd then return []
    if !first then expect .flowEntry
    if ← accept .flowSequenceEnd then return []
    if ← accept .key then
      let key ← nodeUnless fuel .flow [.value, .flowEntry, .flowSequenceEnd]
      let value ← if ← accept .value then nodeUnless fuel .flow [.flowEntry, .flowSequenceEnd]
        else pure .empty
      return .mapping none [(key, value)] :: (← flowItems fuel false)
    else
      let n ← node fuel .flow
      return n :: (← flowItems fuel false)

def flowEntries : Nat → Bool → Read (List (Node × Node))
  | 0, _ => throw .unexpectedToken
  | fuel + 1, first => do
    if ← accept .flowMappingEnd then return []
    if !first then expect .flowEntry
    if ← accept .flowMappingEnd then return []
    if ← accept .key then
      let key ← nodeUnless fuel .flow [.value, .flowEntry, .flowMappingEnd]
      let value ← if ← accept .value then nodeUnless fuel .flow [.flowEntry, .flowMappingEnd]
        else pure .empty
      return (key, value) :: (← flowEntries fuel false)
    else
      let key ← node fuel .flow
      return (key, .empty) :: (← flowEntries fuel false)

end

/-- The end of a document, after which there may be no other. -/
def finish : Read Unit := do
  modify fun r => { r with tokens := r.tokens.dropWhile (· = .documentEnd) }
  if (← peek).isSome then throw .secondDocument

/-- The root of the only document, if there is one. -/
def document (fuel : Nat) : Read (Option Node) := do
  if (← peek).isNone then return none
  let n ← if ← accept .documentStart then
      nodeUnless fuel .block [.documentStart, .documentEnd]
    else node fuel .block
  finish
  return some n

end Read

/-- Three calls for a token are enough. -/
def Node.ofTokens? (ts : List Token) : Except Error (Option Node) := do
  let (n, _) ← (Read.document (3 * ts.length + 3)).run { tokens := ts }
  return n

end PatternLint.Yaml
