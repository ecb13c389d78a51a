import PatternLint.Proofs.Configuration.Keys
import PatternLint.Yaml.Loader

/-! The reader at hand. It takes a stream in one piece, so bytes that are no text come before any
fault of the document. Directives and the tags of sets, pairs and binary data it refuses; a time of
day is a text to it. -/

namespace PatternLint.Yaml

def load (s : TextStream) : Except Failure Value :=
  match s.fault? with
  | some e => .error (.undecodable e)
  | none =>
    match read s.text with
    | .ok value => .ok value
    | .error (.valueless scalar) => .error (.unforeseen scalar.unforeseen)
    | .error e => .error (.invalid e.message)

theorem load_eq_ok_iff {s : TextStream} {v : Value} :
    load s = .ok v ↔ s.fault? = none ∧ read s.text = .ok v := by
  unfold load
  split
  · rename_i e h
    simp [h]
  · rename_i h
    split <;> simp [*]

/-- The reader has no decoding error but that of the stream. -/
theorem fault_of_load {s : TextStream} {e : Utf8.DecodeError}
    (h : load s = .error (.undecodable e)) : s.fault? = some e := by
  unfold load at h
  split at h
  · cases h
    assumption
  · split at h <;> cases h

def loader : Loader where
  load := load
  fault_of_undecodable := fault_of_load
  faultless_of_value h := (load_eq_ok_iff.1 h).1
  wellKeyed_of_value h := wellKeyed_of_read (load_eq_ok_iff.1 h).2

end PatternLint.Yaml
