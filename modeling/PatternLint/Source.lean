import PatternLint.PartitionPoint
import PatternLint.Text.Basic
import PatternLint.Span
import PatternLint.Path

/-! A buffer with the path it came from, and places in it by line and character. Only a line feed
ends a line. -/

namespace PatternLint

/-- A place by its 1-based line and character, with its offset. -/
structure Location where
  file : Option String
  line : Nat
  character : Nat
  offset : Nat
deriving DecidableEq

/-- The file as shown to a reader; a missing or empty name has a placeholder. -/
def Location.shownFile (l : Location) : String :=
  match l.file with
  | some f => if f = "" then "<nopath>" else f
  | none => "<nopath>"

def Location.toString (l : Location) : String :=
  s!"{l.shownFile}:{l.line}:{l.character}"

instance : ToString Location := ⟨Location.toString⟩

structure Source where
  contents : Text
  path : Option Path := none
deriving DecidableEq

/-- An offset that no place of the buffer has. -/
structure OutsideBuffer where
  offset : Int
  length : Nat

def OutsideBuffer.message (e : OutsideBuffer) : String :=
  s!"Offset {e.offset} outside buffer of length {e.length}"

/-- The places after the line feeds of a text that begins at `offset`. -/
def lineStartsFrom (offset : Nat) : Text → List Nat
  | [] => []
  | c :: s =>
    if c = '\n' then (offset + 1) :: lineStartsFrom (offset + 1) s
    else lineStartsFrom (offset + 1) s

namespace Source

def length (source : Source) : Nat := source.contents.length

/-- Where each line begins. -/
def lineStarts (source : Source) : Array Nat := (0 :: lineStartsFrom 0 source.contents).toArray

/-- The line of an offset: the last that begins at or before it. -/
def lineOf (source : Source) (offset : Nat) : Nat :=
  partitionPoint source.lineStarts (· ≤ offset)

def line? (source : Source) (offset : Int) : Except OutsideBuffer Nat :=
  if 0 ≤ offset ∧ offset ≤ source.length then .ok (source.lineOf offset.toNat)
  else .error ⟨offset, source.length⟩

/-- The location of an offset within the buffer. -/
def locate (source : Source) (offset : Nat) : Location where
  file := source.path.map Path.toString
  line := source.lineOf offset
  character := offset - source.lineStarts.getD (source.lineOf offset - 1) 0 + 1
  offset := offset

def location? (source : Source) (offset : Int) : Except OutsideBuffer Location :=
  if 0 ≤ offset ∧ offset ≤ source.length then .ok (source.locate offset.toNat)
  else .error ⟨offset, source.length⟩

/-- The text of a range, cut at the end of the buffer. -/
def text (source : Source) (span : Span) : Text := source.contents.slice span.start span.stop

def describe (source : Source) : String :=
  let path := match source.path with
    | some p => p.toString
    | none => "None"
  s!"SourceFile(path={path}, length={source.length})"

end Source

end PatternLint
