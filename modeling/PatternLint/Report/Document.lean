import PatternLint.Text.Quoted

/-! Structured documents, written as JSON with two spaces a level and ASCII characters only. -/

namespace PatternLint

inductive Document where
  | null
  | bool (b : Bool)
  | number (n : Int)
  | string (s : String)
  | list (items : List Document)
  | record (fields : List (String × Document))

namespace Document

def shortEscapes : List (Char × Char) :=
  [('"', '"'), ('\\', '\\'), ('\n', 'n'), ('\r', 'r'), ('\t', 't'), ('\x0c', 'f'), ('\x08', 'b')]

def unit (n : Nat) : Text := '\\' :: 'u' :: Quoted.hex 4 n

/-- A character beyond the 16-bit range is written as two units. -/
def escapeChar (c : Char) : Text :=
  match shortEscapes.lookup c with
  | some d => ['\\', d]
  | none =>
    let n := c.toNat
    if 32 ≤ n ∧ n < 127 then [c]
    else if n < 0x10000 then unit n
    else unit (0xd800 + (n - 0x10000) / 0x400) ++ unit (0xdc00 + (n - 0x10000) % 0x400)

def quote (s : String) : String :=
  String.ofList ('"' :: s.toList.flatMap escapeChar ++ ['"'])

/-- A new line with blanks for `depth` levels. -/
def newline (depth : Nat) : String := String.ofList ('\n' :: List.replicate (2 * depth) ' ')

/-- Entries between brackets, one a line; without entries the brackets stand together. -/
def block (opening closing : Char) (depth : Nat) (entries : List String) : String :=
  if entries = [] then String.ofList [opening, closing]
  else
    String.singleton opening ++ newline (depth + 1) ++
      String.intercalate ("," ++ newline (depth + 1)) entries ++
      newline depth ++ String.singleton closing

mutual

def render (depth : Nat) : Document → String
  | null => "null"
  | bool b => if b then "true" else "false"
  | number n => toString n
  | string s => quote s
  | list items => block '[' ']' depth (renderItems (depth + 1) items)
  | record fields => block '{' '}' depth (renderFields (depth + 1) fields)

def renderItems (depth : Nat) : List Document → List String
  | [] => []
  | d :: ds => render depth d :: renderItems depth ds

def renderFields (depth : Nat) : List (String × Document) → List String
  | [] => []
  | (name, d) :: fields => (quote name ++ ": " ++ render depth d) :: renderFields depth fields

end

end Document

end PatternLint
