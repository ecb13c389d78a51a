import PatternLint.Text.Stream
import PatternLint.Value.Basic

/-! Readers of documents. They belong to a library: what is known of one is what it promises. -/

namespace PatternLint.Yaml

/-- What a reader ends in without a value. -/
inductive Failure where
  /-- The text is no document, with what the reader says of it. -/
  | invalid (detail : String)
  | undecodable (e : Utf8.DecodeError)
  | unforeseen (e : Unforeseen)

structure Loader where
  load : TextStream → Except Failure Value
  /-- A reader has no decoding error of its own. -/
  fault_of_undecodable : ∀ {s e}, load s = .error (.undecodable e) → s.fault? = some e
  /-- A document is read to the end before there is a value. -/
  faultless_of_value : ∀ {s v}, load s = .ok v → s.fault? = none
  /-- Mappings have every key once. -/
  wellKeyed_of_value : ∀ {s v}, load s = .ok v → v.WellKeyed

end PatternLint.Yaml
