import PatternLint.Yaml.Token

/-! Scalars: plain ones, which go on over lines that are indented enough; quoted ones; and block
scalars, whose indentation is found or given. Breaks inside plain, quoted and folded scalars are
folded: a single one is a space, and of several the first is dropped. -/

namespace PatternLint.Yaml

/-- The folded form of a break followed by others. -/
def fold (first : Char) (others : Text) : Text :=
  if normalBreak first ≠ '\n' then normalBreak first :: others
  else if others = [] then [' ']
  else others

/-! Plain scalars. -/

/-- A plain scalar cannot hold `c` before `s`. -/
def endsPlain (flow : Bool) (c : Char) (s : Text) : Bool :=
  isGap c ||
    (c = ':' && (atGap s || (flow && s.head?.any [',', '[', ']', '{', '}'].contains))) ||
    (flow && [',', '?', '[', ']', '{', '}'].contains c)

def plainRun (flow : Bool) : Text → Text × Text
  | [] => ([], [])
  | c :: s =>
    if endsPlain flow c s then ([], c :: s)
    else
      let (run, rest) := plainRun flow s
      (c :: run, rest)

/-- What stands between two parts of a plain scalar. -/
structure PlainGap where
  text : Text
  rest : Text
  crossesLine : Bool := false
  /-- The column of the rest, if a line was crossed. -/
  column : Nat := 0
  /-- The rest separates documents. -/
  separated : Bool := false

/-- The breaks and spaces behind a first break, up to a separator. -/
def plainBreaks (column : Nat) : Text → PlainGap
  | [] => { text := [], rest := [], crossesLine := true, column := column }
  | c :: s =>
    if c = ' ' then plainBreaks (column + 1) s
    else if isBreak c then
      if atSeparator s then { text := [], rest := s, crossesLine := true, separated := true }
      else
        let gap := plainBreaks 0 s
        { gap with text := normalBreak c :: gap.text }
    else { text := [], rest := c :: s, crossesLine := true, column := column }

def plainGap (s : Text) : PlainGap :=
  let blanks := s.takeWhile (· = ' ')
  match s.dropWhile (· = ' ') with
  | [] => { text := blanks, rest := [] }
  | c :: rest =>
    if !isBreak c then { text := blanks, rest := c :: rest }
    else if atSeparator rest then { text := [], rest := rest, crossesLine := true, separated := true }
    else
      let gap := plainBreaks 0 rest
      { gap with text := if gap.separated then [] else fold c gap.text }

/-- A plain scalar, what follows it, and whether lines were crossed behind its last part. -/
structure Plain where
  text : Text
  rest : Text
  crossesLine : Bool

/-- Goes on with `gap` before the next part, for lines indented by at least `indent`. -/
def plainFrom (flow : Bool) (indent : Nat) (gap : PlainGap) : Plain :=
  let (run, rest) := plainRun flow gap.rest
  if run = [] ∨ gap.rest.head? = some '#' then ⟨[], gap.rest, gap.crossesLine⟩
  else
    let next := plainGap rest
    if next.text = [] ∨ next.rest.head? = some '#' ∨
        (next.crossesLine ∧ !flow ∧ next.column < indent) then
      ⟨gap.text ++ run, next.rest, next.crossesLine⟩
    else if next.rest.length < gap.rest.length then
      let later := plainFrom flow indent next
      { later with text := gap.text ++ run ++ later.text }
    else ⟨gap.text ++ run, next.rest, next.crossesLine⟩
termination_by gap.rest.length

def plain (flow : Bool) (indent : Nat) (s : Text) : Plain :=
  plainFrom flow indent { text := [], rest := s }

/-! Quoted scalars. -/

/-- The breaks after a first one, each line's indentation dropped. -/
def quotedBreaks : Nat → Text → Except Error (Text × Text)
  | 0, s => .ok ([], s)
  | fuel + 1, s =>
    if atSeparator s then .error .separatorInQuote
    else
      match s.dropWhile isBlank with
      | [] => .ok ([], [])
      | c :: rest =>
        if isBreak c then do
          let (breaks, rest) ← quotedBreaks fuel rest
          return (normalBreak c :: breaks, rest)
        else .ok ([], c :: rest)

def escapes : List (Char × Char) :=
  [('0', '\x00'), ('a', '\x07'), ('b', '\x08'), ('t', '\t'), ('\t', '\t'), ('n', '\n'),
    ('v', '\x0b'), ('f', '\x0c'), ('r', '\r'), ('e', '\x1b'), (' ', ' '), ('"', '"'),
    ('\\', '\\'), ('/', '/'), ('N', '\u0085'), ('_', '\u00a0'), ('L', '\u2028'),
    ('P', '\u2029')]

/-- How many hexadecimal digits follow the letter of an escape. -/
def hexWidths : List (Char × Nat) := [('x', 2), ('u', 4), ('U', 8)]

def hexDigit? (c : Char) : Option Nat :=
  if c.isDigit then some (c.toNat - '0'.toNat)
  else if 'a'.toNat ≤ c.toNat ∧ c.toNat ≤ 'f'.toNat then some (c.toNat - 'a'.toNat + 10)
  else if 'A'.toNat ≤ c.toNat ∧ c.toNat ≤ 'F'.toNat then some (c.toNat - 'A'.toNat + 10)
  else none

def hexNumber? (cs : List Char) : Option Nat :=
  cs.foldlM (fun n c => (hexDigit? c).map (16 * n + ·)) 0

/-- The text of an escape, and what follows it. -/
def escape (fuel : Nat) : Text → Except Error (Text × Text)
  | [] => .error .unclosedQuote
  | c :: s =>
    if isBreak c then quotedBreaks fuel s
    else
      match escapes.lookup c, hexWidths.lookup c with
      | some d, _ => .ok ([d], s)
      | none, none => .error .unknownEscape
      | none, some width =>
        match hexNumber? (s.take width) with
        | some n =>
          if s.length < width then .error .unknownEscape
          else if n.isValidChar then .ok ([Char.ofNat n], s.drop width)
          else if 0x10ffff < n then .error (.valueless (.character n))
          else .error .unknownEscape
        | none => .error .unknownEscape

/-- The text up to the closing quote, and what follows. -/
def quotedFrom (double : Bool) : Nat → Text → Except Error (Text × Text)
  | _, [] => .error .unclosedQuote
  | 0, _ => .error .unclosedQuote
  | fuel + 1, c :: s => do
    let go (lead : Text) (s : Text) : Except Error (Text × Text) := do
      let (text, rest) ← quotedFrom double fuel s
      return (lead ++ text, rest)
    if isGap c then
      let blanks := (c :: s).takeWhile isBlank
      match (c :: s).dropWhile isBlank with
      | [] => throw .unclosedQuote
      | d :: rest =>
        if isBreak d then
          let (breaks, rest) ← quotedBreaks fuel rest
          go (fold d breaks) rest
        else go blanks (d :: rest)
    else if double then
      if c = '"' then return ([], s)
      else if c = '\\' then
        let (text, rest) ← escape fuel s
        go text rest
      else go [c] s
    else if c = '\'' then
      match s with
      | '\'' :: s => go ['\''] s
      | s => return ([], s)
    else go [c] s

/-- A quoted scalar after its opening quote. -/
def quoted (double : Bool) (s : Text) : Except Error (Text × Text) := quotedFrom double s.length s

/-! Block scalars. -/

/-- Which breaks at the end are kept. -/
inductive Chomping where
  | clip
  | strip
  | keep
deriving DecidableEq

structure BlockHeader where
  chomping : Chomping := .clip
  /-- The indentation that the header gives, beyond that of the block around. -/
  increment : Option Nat := none

def chomping? : Char → Option Chomping
  | '+' => some .keep
  | '-' => some .strip
  | _ => none

def blockIndicators : Text → Except Error (BlockHeader × Text)
  | [] => .ok ({}, [])
  | c :: s =>
    match chomping? c with
    | some chomping =>
      match s with
      | d :: rest =>
        if d = '0' then .error .badBlockHeader
        else if d.isDigit then .ok (⟨chomping, some (d.toNat - '0'.toNat)⟩, rest)
        else .ok (⟨chomping, none⟩, s)
      | [] => .ok (⟨chomping, none⟩, [])
    | none =>
      if c = '0' then .error .badBlockHeader
      else if c.isDigit then
        let increment := some (c.toNat - '0'.toNat)
        match s with
        | d :: rest =>
          match chomping? d with
          | some chomping => .ok (⟨chomping, increment⟩, rest)
          | none => .ok (⟨.clip, increment⟩, s)
        | [] => .ok (⟨.clip, increment⟩, [])
      else .ok ({}, c :: s)

/-- The header with the rest of its line, which may hold a comment. -/
def blockHeader (s : Text) : Except Error (BlockHeader × Text) := do
  let (header, rest) ← blockIndicators s
  if !(rest.head?.all fun c => c = ' ' || isBreak c) then throw .badBlockHeader
  let rest := rest.dropWhile (· = ' ')
  let rest := if rest.head? = some '#' then rest.dropWhile (!isBreak ·) else rest
  match rest with
  | [] => return (header, [])
  | c :: rest => if isBreak c then return (header, rest) else throw .badBlockHeader

/-- Where a line of a block scalar may begin: the breaks before it, and its column. -/
structure BlockGap where
  breaks : Text
  rest : Text
  column : Nat

/-- Empty lines, and the greatest indentation among them and the line after. -/
def findIndent (column greatest : Nat) : Text → BlockGap × Nat
  | [] => (⟨[], [], column⟩, greatest)
  | c :: s =>
    if c = ' ' then findIndent (column + 1) (max greatest (column + 1)) s
    else if isBreak c then
      let (gap, greatest) := findIndent 0 greatest s
      ({ gap with breaks := normalBreak c :: gap.breaks }, greatest)
    else (⟨[], c :: s, column⟩, greatest)

/-- Empty lines, and the spaces of the next line up to `indent`. -/
def blockGap (indent column : Nat) : Text → BlockGap
  | [] => ⟨[], [], column⟩
  | c :: s =>
    if c = ' ' ∧ column < indent then blockGap indent (column + 1) s
    else if isBreak c then
      let gap := blockGap indent 0 s
      { gap with breaks := normalBreak c :: gap.breaks }
    else ⟨[], c :: s, column⟩

/-- What ends the lines of a block scalar: the last break, and the empty lines behind it. -/
structure BlockEnd where
  text : Text
  lastBreak : Text
  gap : BlockGap

def startsBlank (s : Text) : Bool := s.head?.any isBlank

def blockLines (folded : Bool) (indent : Nat) : Nat → BlockGap → BlockEnd
  | 0, gap => ⟨[], [], gap⟩
  | fuel + 1, gap =>
    if gap.column ≠ indent ∨ gap.rest = [] then ⟨[], [], gap⟩
    else
      let line := gap.rest.takeWhile (!isBreak ·)
      let lead := gap.breaks ++ line
      match gap.rest.dropWhile (!isBreak ·) with
      | [] => ⟨lead, [], ⟨[], [], line.length + indent⟩⟩
      | c :: rest =>
        let next := blockGap indent 0 rest
        if next.column ≠ indent ∨ next.rest = [] then ⟨lead, [normalBreak c], next⟩
        else
          let join :=
            if folded && normalBreak c = '\n' && !startsBlank gap.rest && !startsBlank next.rest then
              if next.breaks = [] then [' '] else []
            else [normalBreak c]
          let later := blockLines folded indent fuel next
          { later with text := lead ++ join ++ later.text }

/-- A block scalar after its indicator, inside a block indented by `indent - 1`. -/
def block (folded : Bool) (indent : Nat) (s : Text) : Except Error (Text × Text) := do
  let (header, rest) ← blockHeader s
  let least := max indent 1
  let (gap, indent) := match header.increment with
    | none =>
      let (gap, greatest) := findIndent 0 0 rest
      (gap, max least greatest)
    | some n => (blockGap (least + n - 1) 0 rest, least + n - 1)
  let x := blockLines folded indent s.length gap
  let ending := match header.chomping with
    | .strip => []
    | .clip => x.lastBreak
    | .keep => x.lastBreak ++ x.gap.breaks
  return (x.text ++ ending, x.gap.rest)

end PatternLint.Yaml
