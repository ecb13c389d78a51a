import PatternLint.Text.Utf8

/-! Files opened as texts: the characters up to the first bytes that are none. -/

namespace PatternLint

structure TextStream where
  text : Text := []
  /-- What a reader comes upon after the text, if the bytes go on. -/
  fault? : Option Utf8.DecodeError := none

namespace TextStream

def ofBytes : List UInt8 → TextStream
  | [] => {}
  | b :: bs =>
    match _h : Utf8.decodeChar b bs with
    | .error e => { fault? := some e }
    | .ok (c, rest) =>
      let later := ofBytes rest
      { later with text := c :: later.text }
termination_by bs => bs.length
decreasing_by
  have := Utf8.length_decodeChar_le _h
  simp only [List.length_cons]
  omega

/-- A stream ends well exactly if its bytes are a text. -/
theorem decode_eq (bytes : List UInt8) :
    Utf8.decode bytes = match (ofBytes bytes).fault? with
      | some e => .error e
      | none => .ok (ofBytes bytes).text := by
  fun_induction ofBytes bytes with
  | case1 => rw [Utf8.decode]
  | case2 b bs e h =>
    rw [Utf8.decode]
    split
    · rename_i e' h'
      cases h.symm.trans h'
      rfl
    · rename_i h'
      cases h.symm.trans h'
  | case3 b bs c rest h later ih =>
    rw [Utf8.decode]
    split
    · rename_i h'
      cases h.symm.trans h'
    · rename_i h'
      cases h.symm.trans h'
      rw [ih]
      cases (ofBytes rest).fault? with
      | some e => rfl
      | none => rfl

end TextStream

end PatternLint
