import PatternLint.Pattern.Reader

/-! Replacement templates. A backslash with a number or `\g<...>` stands for the text of a group; a
text without backslashes stands for itself. -/

namespace PatternLint

inductive TemplatePart where
  | char (c : Char)
  | group (index : Nat)
deriving DecidableEq

abbrev Template := List TemplatePart

/-- What makes a written template invalid for a pattern. -/
inductive TemplateError where
  | loneBackslash
  | unknownEscape
  | badGroupName
  | unknownGroup
  | badOctal
deriving DecidableEq

namespace Template

open Regex (Token)

def controlEscapes : List (Char × Char) :=
  ('b', '\x08') :: ('\\', '\\') :: Regex.controlEscapes

def isOctal (c : Char) : Bool := inRange '0' '7' c

def octal (cs : List Char) : Nat := cs.foldl (fun n c => 8 * n + (c.toNat - '0'.toNat)) 0

def groupPart (regex : Regex) (index : Nat) : Except TemplateError TemplatePart :=
  if index ≤ regex.groupCount then .ok (.group index) else .error .unknownGroup

/-- The group of a name in angle brackets. -/
def namedPart (regex : Regex) (name : List Char) : Except TemplateError TemplatePart :=
  if isIdentifier name then
    match regex.names.lookup (String.ofList name) with
    | some index => .ok (.group index)
    | none => .error .unknownGroup
  else if name ≠ [] ∧ name.all Char.isDigit then groupPart regex (Regex.number name)
  else .error .badGroupName

def groupName (ts : List Token) : Except TemplateError (List Char × List Token) :=
  match Regex.groupName ts with
  | .ok x => .ok x
  | .error _ => .error .badGroupName

/-- At most `n` octal digits, and what follows. -/
def octalDigits : Nat → List Token → List Char × List Token
  | n + 1, .plain c :: ts =>
    if isOctal c then
      let (cs, rest) := octalDigits n ts
      (c :: cs, rest)
    else ([], .plain c :: ts)
  | _, ts => ([], ts)

/-- A number after a backslash: three octal digits are a character, else one or two digits are a
group. -/
def numbered (regex : Regex) (first : Char) :
    List Token → Except TemplateError (TemplatePart × List Token)
  | .plain second :: .plain third :: ts =>
    if isOctal first && isOctal second && isOctal third then
      let code := octal [first, second, third]
      if 0o377 < code then .error .badOctal else .ok (.char (Char.ofNat code), ts)
    else if second.isDigit then do
      return (← groupPart regex (Regex.number [first, second]), .plain third :: ts)
    else do
      return (← groupPart regex (Regex.number [first]), .plain second :: .plain third :: ts)
  | .plain second :: ts =>
    if second.isDigit then do
      return (← groupPart regex (Regex.number [first, second]), ts)
    else do
      return (← groupPart regex (Regex.number [first]), .plain second :: ts)
  | ts => do return (← groupPart regex (Regex.number [first]), ts)

/-- The parts that an escape stands for, and what follows it. -/
def escape (regex : Regex) (c : Char) (ts : List Token) :
    Except TemplateError (Template × List Token) :=
  if c = 'g' then
    match ts with
    | .plain '<' :: ts => do
      let (name, rest) ← groupName ts
      return ([← namedPart regex name], rest)
    | _ => .error .badGroupName
  else if c = '0' then
    let (cs, rest) := octalDigits 2 ts
    .ok ([.char (Char.ofNat (octal cs))], rest)
  else if c.isDigit then do
    let (part, rest) ← numbered regex c ts
    return ([part], rest)
  else
    match controlEscapes.lookup c with
    | some d => .ok ([.char d], ts)
    | none => if c.isAlpha then .error .unknownEscape else .ok ([.char '\\', .char c], ts)

/-- Reads with at most `fuel` steps; each takes a token. -/
def readFrom (regex : Regex) : Nat → List Token → Except TemplateError Template
  | fuel + 1, .plain c :: ts => do return .char c :: (← readFrom regex fuel ts)
  | fuel + 1, .escaped c :: ts => do
    let (parts, rest) ← escape regex c ts
    return parts ++ (← readFrom regex fuel rest)
  | _, _ => .ok []

def read (regex : Regex) (written : Text) : Except TemplateError Template :=
  match Regex.tokens written with
  | .ok ts => readFrom regex ts.length ts
  | .error _ => .error .loneBackslash

/-- The text of a part; a group that took no part is empty. -/
def partText (contents : Text) (found : Found) : TemplatePart → Text
  | .char c => [c]
  | .group index =>
    match found.group? index with
    | some a => contents.slice a.start a.stop
    | none => []

def expand (t : Template) (contents : Text) (found : Found) : Text :=
  t.flatMap (partText contents found)

end Template

end PatternLint
