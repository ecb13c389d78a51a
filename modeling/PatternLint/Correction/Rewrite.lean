import PatternLint.Pattern.Dialect
import PatternLint.Text.Quoted

/-! Rewrites that keep the width. In each span the first occurrence of a pattern is replaced by a
text of the same length, so the offsets of everything else stay valid; one span that cannot be
rewritten spoils the whole. Patterns and templates are read by a library, which may fail in ways
that nobody expects. -/

namespace PatternLint

structure Rewrite where
  pattern : Text
  replacement : Text
  flags : Int := 0

/-- Why a correction is refused. -/
inductive CorrectionError where
  | badPattern (pattern : Text) (detail : String)
  | badReplacement (replacement : Text) (detail : String)
  | overlapping (offset : Nat)
  | outsideBuffer (span : Span) (length : Nat)
  | noOccurrence (offset : Nat) (text : Text)
  | lengthChange (offset before after : Nat)
  /-- A rule has a reason of its own. -/
  | refused (reason : String)
deriving DecidableEq

def CorrectionError.message : CorrectionError → String
  | badPattern pattern detail => s!"Cannot compile correction pattern {pattern.quoted}: {detail}"
  | badReplacement replacement detail =>
    s!"Cannot expand replacement {replacement.quoted}: {detail}"
  | overlapping offset => s!"Overlapping correction spans at offset {offset}"
  | outsideBuffer a length => s!"Span [{a.start}, {a.stop}) exceeds buffer of length {length}"
  | noOccurrence offset text =>
    s!"Correction pattern does not match text at offset {offset}: {text.quoted}"
  | lengthChange offset before after =>
    s!"Correction at offset {offset} would change length from {before} to {after}"
  | refused reason => reason

namespace Rewrite

/-- Why a text is not rewritten. -/
inductive Failure where
  | refused (e : CorrectionError)
  | unforeseen (e : Unforeseen)
deriving DecidableEq

/-- A text that the library calls invalid is refused with what it says of it. -/
def Failure.ofFault (refusal : String → CorrectionError) : Fault → Failure
  | .invalid detail => .refused (refusal detail)
  | .unforeseen e => .unforeseen e

def compile (dialect : Dialect) (rw : Rewrite) : Except Failure Compiled :=
  (dialect.compile rw.flags rw.pattern).mapError (.ofFault (.badPattern rw.pattern))

def expansion (rw : Rewrite) (compiled : Compiled) : Except Failure Expansion :=
  (compiled.template rw.replacement).mapError (.ofFault (.badReplacement rw.replacement))

/-- The text with a match replaced. -/
def exchanged (expand : Expansion) (text : Text) (found : Found) : Text :=
  text.take found.extent.start ++ expand text found ++ text.drop found.extent.stop

/-- Replaces the first occurrence in `text`, which stands at `offset`. -/
def piece (rw : Rewrite) (compiled : Compiled) (offset : Nat) (text : Text) :
    Except Failure Text := do
  let expand ← rw.expansion compiled
  match compiled.matcher.search text 0 with
  | none => throw (.refused (.noOccurrence offset text))
  | some found =>
    let replaced := exchanged expand text found
    if replaced.length = text.length then return replaced
    else throw (.refused (.lengthChange offset text.length replaced.length))

/-- The rewritten text from `cursor` on, for spans in order. -/
def onward (rw : Rewrite) (compiled : Compiled) (contents : Text) (cursor : Nat) :
    List Span → Except Failure Text
  | [] => .ok (contents.drop cursor)
  | a :: rest => do
    if a.start < cursor then throw (.refused (.overlapping a.start))
    if contents.length < a.stop then throw (.refused (.outsideBuffer a contents.length))
    let replaced ← rw.piece compiled a.start (contents.slice a.start a.stop)
    let tail ← rw.onward compiled contents a.stop rest
    return contents.slice cursor a.start ++ replaced ++ tail

/-- Rewrites every span, whatever their order. -/
def apply (dialect : Dialect) (rw : Rewrite) (contents : Text) (spans : List Span) :
    Except Failure Text := do
  let compiled ← rw.compile dialect
  rw.onward compiled contents 0 (spans.mergeSort Span.sortsBefore)

end Rewrite

end PatternLint
