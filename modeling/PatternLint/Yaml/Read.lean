import PatternLint.Value.Basic
import PatternLint.Yaml.Lexer
import PatternLint.Yaml.Node
import PatternLint.Yaml.Number

/-! Documents as values. A plain scalar is what its form says; a mapping may take in the entries of
others, which its own entries override. -/

namespace PatternLint.Yaml

def nulls : List String := ["~", "null", "Null", "NULL", ""]

def isTrue (s : String) : Bool := ["yes", "true", "on"].contains s.toLower

def isFalse (s : String) : Bool := ["no", "false", "off"].contains s.toLower

/-- In lower case, with a capital, or in capitals. -/
def isRegularCase (s : String) : Bool :=
  s = s.toLower || s = s.toUpper || s = s.toLower.capitalize

def bool? (s : String) : Option Bool :=
  if isTrue s then some true else if isFalse s then some false else none

def intValue (text : Text) (n : Int) : Except Error Value :=
  let digits := decimalLength text
  if maxDigits < digits then .error (.valueless (.long digits)) else .ok (.int n)

/-- The value that the form of a plain scalar gives it. -/
def plainValue (text : Text) : Except Error Value :=
  let s := String.ofList text
  if nulls.contains s then .ok .null
  else if s = "=" ∨ s = "<<" then .error .unknownTag
  else
    match (if isRegularCase s then bool? s else none), float? text, int? text, date? text with
    | some b, _, _, _ => .ok (.bool b)
    | none, some x, _, _ => .ok (.float x)
    | none, none, some n, _ => intValue text n
    | none, none, none, some (year, month, day) =>
      if isDate year month day then .ok (.date year month day)
      else .error (.valueless (.date year month day))
    | none, none, none, none =>
      if isDigitless text then .error (.valueless (.number text)) else .ok (.text s)

def required {α : Type} (f : α → Value) (scalar : Valueless) : Option α → Except Error Value
  | some a => .ok (f a)
  | none => .error (.valueless scalar)

def standard (name : String) : String := "tag:yaml.org,2002:" ++ name

def scalarValue (tag : Option String) (text : Text) (plain : Bool) : Except Error Value :=
  match tag with
  | none => if plain then plainValue text else .ok (.text (String.ofList text))
  | some t =>
    let s := String.ofList text
    if t = "!" then plainValue text
    else if t = standard "str" then .ok (.text s)
    else if t = standard "null" then .ok .null
    else if t = standard "bool" then required .bool (.truth text) (bool? s)
    else if t = standard "int" then
      match int? text with
      | some n => intValue text n
      | none => .error (.valueless (.number text))
    else if t = standard "float" then
      required .float (.number text) ((float? text).or ((int? text).map Float.ofInt))
    else .error .unknownTag

/-- Whether a collection may have its tag. -/
def checkTag (name : String) : Option String → Except Error Unit
  | none => .ok ()
  | some t => if t = "!" ∨ t = standard name then .ok () else .error .unknownTag

/-- The key that takes in the entries of other mappings. -/
def isMerge : Node → Bool
  | .scalar none ['<', '<'] true => true
  | _ => false

/-- Entries that were taken in, and the mapping's own. -/
structure Merged where
  taken : List (Value × Value) := []
  own : List (Value × Value) := []

def Merged.entries (m : Merged) : List (Value × Value) := m.taken ++ m.own

mutual

def Node.value : Node → Except Error Value
  | .scalar tag text plain => scalarValue tag text plain
  | .sequence tag items => do
    checkTag "seq" tag
    return .list (← values items)
  | .mapping tag entries => do
    checkTag "map" tag
    return .ofEntries (← merged entries).entries

def values : List Node → Except Error (List Value)
  | [] => .ok []
  | n :: ns => do return (← n.value) :: (← values ns)

/-- An equals sign is a text where it is a key. -/
def merged : List (Node × Node) → Except Error Merged
  | [] => .ok {}
  | (key, node) :: rest => do
    if isMerge key then
      let taken ← takenFrom node
      let later ← merged rest
      return { later with taken := taken ++ later.taken }
    else
      let k ← match key with
        | .scalar none ['='] true => pure (.text "=")
        | _ => key.value
      if !k.isScalar then throw .compoundKey
      let v ← node.value
      let later ← merged rest
      return { later with own := (k, v) :: later.own }

/-- The entries of a mapping, or of every mapping of a sequence, the last first. -/
def takenFrom : Node → Except Error (List (Value × Value))
  | .scalar .. => .error .badMerge
  | .mapping _ entries => do return (← merged entries).entries
  | .sequence _ items => takenFromEach items

def takenFromEach : List Node → Except Error (List (Value × Value))
  | [] => .ok []
  | .mapping _ entries :: ns => do
    let first := (← merged entries).entries
    return (← takenFromEach ns) ++ first
  | _ :: _ => .error .badMerge

end

/-- The value of a text with at most one document. -/
def read (s : Text) : Except Error Value := do
  if !s.all isPrintable then throw .unprintable
  match ← Node.ofTokens? (← tokens (unifyLines s)) with
  | none => return .null
  | some n => n.value

end PatternLint.Yaml
