import PatternLint.Pattern.Run
import PatternLint.Text.Identifier
import PatternLint.Unforeseen

/-! Written patterns, in the notation that the rules need. The reader takes one token after another
and keeps what is open: for each group its finished alternatives and the pieces of the one it is
in. -/

namespace PatternLint

/-- What makes a written pattern invalid. -/
inductive PatternError where
  | loneBackslash
  | unknownEscape
  | unclosedClass
  | badRange
  | nothingToRepeat
  | repeatedTwice
  | emptyBounds
  | unknownExtension
  | badGroupName
  | groupNameTwice
  | unclosedGroup
  | unopenedGroup
  /-- More turns than are counted. -/
  | hugeCount
  /-- A number of so many digits. -/
  | hugeNumber (digits : Nat)
deriving DecidableEq

/-- How a pattern is to be read. -/
structure Flags where
  ignoreCase : Bool := false
  multiline : Bool := false
  dotMatchesNewline : Bool := false
deriving DecidableEq

/-- A pattern with its groups, which are numbered from 1 in the order in which they open. -/
structure Regex where
  pattern : Pattern
  groupCount : Nat
  names : List (String × Nat)

namespace Regex

inductive Token where
  | plain (c : Char)
  /-- A character after a backslash. -/
  | escaped (c : Char)
deriving DecidableEq

def tokens : Text → Except PatternError (List Token)
  | [] => .ok []
  | '\\' :: c :: s => return .escaped c :: (← tokens s)
  | ['\\'] => .error .loneBackslash
  | c :: s => return .plain c :: (← tokens s)

def controlEscapes : List (Char × Char) :=
  [('a', '\x07'), ('f', '\x0c'), ('n', '\n'), ('r', '\r'), ('t', '\t'), ('v', '\x0b')]

def categoryEscapes : List (Char × ClassItem) :=
  [('s', .category .blank false), ('S', .category .blank true),
    ('w', .category .word false), ('W', .category .word true),
    ('d', .category .decimal false), ('D', .category .decimal true)]

/-- Letters and digits after a backslash stand for themselves nowhere. -/
def escapedItem (controls : List (Char × Char)) (c : Char) : Except PatternError ClassItem :=
  match categoryEscapes.lookup c with
  | some item => .ok item
  | none =>
    match controls.lookup c with
    | some d => .ok (.range d d)
    | none => if c.isAlphanum then .error .unknownEscape else .ok (.range c c)

/-- Inside a class, `\b` is a backspace. -/
def classItem : Token → Except PatternError ClassItem
  | .plain c => .ok (.range c c)
  | .escaped c => escapedItem (('b', '\x08') :: controlEscapes) c

def rangeItem : ClassItem → ClassItem → Except PatternError ClassItem
  | .range a _, .range b _ => if b.toNat < a.toNat then .error .badRange else .ok (.range a b)
  | _, _ => .error .badRange

def dash : ClassItem := .range '-' '-'

/-- The items of a class up to its bracket, and what follows. A bracket that comes first, and a
dash at either end, stand for themselves. -/
def classItems (found : List ClassItem) :
    List Token → Except PatternError (List ClassItem × List Token)
  | [] => .error .unclosedClass
  | t :: ts =>
    if t = .plain ']' ∧ found ≠ [] then .ok (found.reverse, ts)
    else
      match ts with
      | .plain '-' :: .plain ']' :: rest => do
        return ((dash :: (← classItem t) :: found).reverse, rest)
      | .plain '-' :: u :: rest => do
        classItems ((← rangeItem (← classItem t) (← classItem u)) :: found) rest
      | rest => do classItems ((← classItem t) :: found) rest

/-- The class after its opening bracket. -/
def charClass (flags : Flags) : List Token → Except PatternError (CharClass × List Token)
  | .plain '^' :: ts => do
    let (items, rest) ← classItems [] ts
    return ({ items := items, negated := true, folded := flags.ignoreCase }, rest)
  | ts => do
    let (items, rest) ← classItems [] ts
    return ({ items := items, folded := flags.ignoreCase }, rest)

/-- A run of digits as a number, if there is one. -/
def digits : List Token → List Char × List Token
  | .plain c :: ts =>
    if c.isDigit then
      let (cs, rest) := digits ts
      (c :: cs, rest)
    else ([], .plain c :: ts)
  | ts => ([], ts)

def number (cs : List Char) : Nat := cs.foldl (fun n c => 10 * n + (c.toNat - '0'.toNat)) 0

/-- Turns are counted up to here. -/
def maxCount : Nat := 4294967294

/-- A run of digits as a number of turns. -/
def count (cs : List Char) : Except PatternError Nat :=
  if maxDigits < cs.length then .error (.hugeNumber cs.length)
  else if maxCount < number cs then .error .hugeCount
  else .ok (number cs)

/-- The bounds of a counter after its brace, if it is one; either may be left out, but not both
and the comma. -/
def counter? (ts : List Token) : Except PatternError (Option ((Nat × Option Nat) × List Token)) :=
  if ts.head? = some (.plain '}') then .ok none
  else
    let (low, rest) := digits ts
    match rest with
    | .plain ',' :: rest =>
      let (high, rest) := digits rest
      match rest with
      | .plain '}' :: rest => do
        let least ← count low
        if high.isEmpty then return some ((least, none), rest)
        return some ((least, some (← count high)), rest)
      | _ => .ok none
    | .plain '}' :: rest => do
      let turns ← count low
      return some ((turns, some turns), rest)
    | _ => .ok none

/-- The bounds of a quantifier, and what follows it. -/
def bounds? : List Token → Except PatternError (Option ((Nat × Option Nat) × List Token))
  | .plain '?' :: ts => .ok (some ((0, some 1), ts))
  | .plain '*' :: ts => .ok (some ((0, none), ts))
  | .plain '+' :: ts => .ok (some ((1, none), ts))
  | .plain '{' :: ts => counter? ts
  | _ => .ok none

/-- What a quantifier may follow. -/
inductive PieceKind where
  | repeatable
  | place
  | repeated

/-- Part of an alternative. -/
structure Piece where
  pattern : Pattern
  kind : PieceKind := .repeatable

inductive GroupKind where
  | plain
  | taking (index : Nat)
  | ahead (wanted : Bool)

def GroupKind.close (body : Pattern) : GroupKind → Pattern
  | plain => body
  | taking index => .group index body
  | ahead wanted => .ahead wanted body

/-- An open group; alternatives and pieces stand in reverse. -/
structure Level where
  kind : GroupKind
  alternatives : List Pattern := []
  pieces : List Piece := []

namespace Level

def alternative (l : Level) : Pattern := .sequence (l.pieces.reverse.map Piece.pattern)

/-- Starts the next alternative. -/
def next (l : Level) : Level :=
  { l with alternatives := l.alternative :: l.alternatives, pieces := [] }

def body (l : Level) : Pattern := l.alternatives.foldl (fun p q => .alt q p) l.alternative

def add (l : Level) (piece : Piece) : Level := { l with pieces := piece :: l.pieces }

/-- Repeats the latest piece. -/
def quantify (l : Level) (least : Nat) (most : Option Nat) (greedy : Bool) :
    Except PatternError Level :=
  match l.pieces with
  | [] => .error .nothingToRepeat
  | piece :: pieces =>
    match piece.kind with
    | .place => .error .nothingToRepeat
    | .repeated => .error .repeatedTwice
    | .repeatable =>
      if most.any (· < least) then .error .emptyBounds
      else .ok { l with pieces := ⟨.loop least most greedy piece.pattern, .repeated⟩ :: pieces }

end Level

/-- The innermost open level, those around it, and the groups so far. -/
structure Open where
  level : Level := { kind := .plain }
  outer : List Level := []
  groupCount : Nat := 0
  names : List (String × Nat) := []

namespace Open

def add (o : Open) (piece : Piece) : Open := { o with level := o.level.add piece }

def enter (o : Open) (kind : GroupKind) : Open :=
  { o with level := { kind := kind }, outer := o.level :: o.outer }

def enterGroup (o : Open) : Open :=
  { o.enter (.taking (o.groupCount + 1)) with groupCount := o.groupCount + 1 }

def leave (o : Open) : Except PatternError Open :=
  match o.outer with
  | [] => .error .unopenedGroup
  | l :: outer =>
    .ok { o with level := l.add { pattern := o.level.kind.close o.level.body }, outer := outer }

def finish (o : Open) : Except PatternError Regex :=
  match o.outer with
  | [] => .ok ⟨o.level.body, o.groupCount, o.names⟩
  | _ => .error .unclosedGroup

end Open

/-- The name up to a closing angle bracket, and what follows. -/
def groupName : List Token → Except PatternError (List Char × List Token)
  | .plain '>' :: ts => .ok ([], ts)
  | .plain c :: ts => do
    let (name, rest) ← groupName ts
    return (c :: name, rest)
  | _ => .error .badGroupName

/-- Opens a group after its parenthesis. -/
def openGroup (o : Open) : List Token → Except PatternError (Open × List Token)
  | .plain '?' :: .plain ':' :: ts => .ok (o.enter .plain, ts)
  | .plain '?' :: .plain '=' :: ts => .ok (o.enter (.ahead true), ts)
  | .plain '?' :: .plain '!' :: ts => .ok (o.enter (.ahead false), ts)
  | .plain '?' :: .plain 'P' :: .plain '<' :: ts => do
    let (name, rest) ← groupName ts
    let name' := String.ofList name
    if !isIdentifier name then throw .badGroupName
    if (o.names.lookup name').isSome then throw .groupNameTwice
    return ({ o.enterGroup with names := (name', o.groupCount + 1) :: o.names }, rest)
  | .plain '?' :: _ => .error .unknownExtension
  | ts => .ok (o.enterGroup, ts)

def singlePiece (flags : Flags) (item : ClassItem) : Piece :=
  { pattern := .chars { items := [item], folded := flags.ignoreCase } }

def anyPiece (flags : Flags) : Piece :=
  { pattern := .chars (if flags.dotMatchesNewline then .all else .butNot '\n') }

def anchorPiece (condition : Anchor) : Piece := { pattern := .anchor condition, kind := .place }

/-- One step of reading: an element with what belongs to it. -/
def step (flags : Flags) (o : Open) (t : Token) (ts : List Token) :
    Except PatternError (Open × List Token) :=
  match t with
  | .escaped 'b' => .ok (o.add (anchorPiece .wordEdge), ts)
  | .escaped c => do return (o.add (singlePiece flags (← escapedItem controlEscapes c)), ts)
  | .plain '|' => .ok ({ o with level := o.level.next }, ts)
  | .plain '(' => openGroup o ts
  | .plain ')' => do return (← o.leave, ts)
  | .plain '.' => .ok (o.add (anyPiece flags), ts)
  | .plain '^' => .ok (o.add (anchorPiece (if flags.multiline then .lineStart else .textStart)), ts)
  | .plain '$' => .ok (o.add (anchorPiece (if flags.multiline then .lineEnd else .textEnd)), ts)
  | .plain '[' => do
    let (set, rest) ← charClass flags ts
    return (o.add { pattern := .chars set }, rest)
  | .plain c => do
    match ← bounds? (.plain c :: ts) with
    | none => return (o.add (singlePiece flags (.range c c)), ts)
    | some ((least, most), .plain '?' :: rest) =>
      return ({ o with level := ← o.level.quantify least most false }, rest)
    | some ((least, most), rest) =>
      return ({ o with level := ← o.level.quantify least most true }, rest)

/-- Reads with at most `fuel` steps; each takes a token. -/
def readFrom (flags : Flags) : Nat → Open → List Token → Except PatternError Regex
  | _, o, [] => o.finish
  | 0, o, _ => o.finish
  | fuel + 1, o, t :: ts => do
    let (o, rest) ← step flags o t ts
    readFrom flags fuel o rest

def read (flags : Flags) (written : Text) : Except PatternError Regex := do
  let ts ← tokens written
  readFrom flags ts.length {} ts

end Regex

end PatternLint
