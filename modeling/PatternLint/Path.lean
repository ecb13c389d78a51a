/-! Paths as written: a root and the segments after it. Empty segments and `.` vanish, `..` stays. -/

namespace PatternLint

structure Path where
  /-- `""`, `"/"`, or `"//"`: two leading slashes are kept, three or more are one. -/
  root : String
  segments : List String
deriving DecidableEq

namespace Path

def rootOf (s : List Char) : String :=
  match s with
  | '/' :: '/' :: '/' :: _ => "/"
  | '/' :: '/' :: _ => "//"
  | '/' :: _ => "/"
  | _ => ""

/-- Cuts a text at its slashes. -/
def pieces : List Char → List (List Char)
  | [] => [[]]
  | '/' :: s => [] :: pieces s
  | c :: s =>
    match pieces s with
    | [] => [[c]]
    | p :: ps => (c :: p) :: ps

def ofString (s : String) : Path where
  root := rootOf s.toList
  segments := ((pieces s.toList).map String.ofList).filter fun p => p ≠ "" ∧ p ≠ "."

def toString (p : Path) : String :=
  if p.root = "" ∧ p.segments = [] then "." else p.root ++ String.intercalate "/" p.segments

instance : ToString Path := ⟨toString⟩

/-- The last segment. -/
def name (p : Path) : String := p.segments.getLastD ""

/-- The last segment from its last dot on, unless that dot begins or ends it. -/
def suffixOf (name : String) : String :=
  let ending := name.toList.reverse.takeWhile (· ≠ '.')
  let dot := name.length - ending.length - 1
  if 0 < dot ∧ ending ≠ [] ∧ ending.length < name.length then
    String.ofList ('.' :: ending.reverse)
  else ""

def suffix (p : Path) : String := suffixOf p.name

def parent (p : Path) : Path := { p with segments := p.segments.dropLast }

def child (p : Path) (name : String) : Path := { p with segments := p.segments ++ [name] }

end Path

end PatternLint
