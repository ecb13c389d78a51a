import PatternLint.Text.Basic

/-! UTF-8. A lead byte says how many continuation bytes follow and in what range the first of them
lies; overlong forms, surrogates and codes past the last plane are excluded by that range. -/

namespace PatternLint.Utf8

/-- Why bytes are no text. -/
inductive DecodeError where
  | invalidStart
  | invalidContinuation
  | unexpectedEnd
deriving DecidableEq

def DecodeError.message : DecodeError → String
  | invalidStart => "invalid start byte"
  | invalidContinuation => "invalid continuation byte"
  | unexpectedEnd => "unexpected end of data"

def continuation (n : Nat) : UInt8 := UInt8.ofNat (0x80 + n % 0x40)

def encodeChar (c : Char) : List UInt8 :=
  let n := c.toNat
  if n < 0x80 then [UInt8.ofNat n]
  else if n < 0x800 then [UInt8.ofNat (0xc0 + n / 0x40), continuation n]
  else if n < 0x10000 then
    [UInt8.ofNat (0xe0 + n / 0x1000), continuation (n / 0x40), continuation n]
  else
    [UInt8.ofNat (0xf0 + n / 0x40000), continuation (n / 0x1000), continuation (n / 0x40),
      continuation n]

def encode (s : Text) : List UInt8 := s.flatMap encodeChar

/-- What a lead byte announces: the bits it carries, the range of the next byte, and how many
bytes follow that one. -/
structure Lead where
  bits : Nat
  low : Nat
  high : Nat
  more : Nat

def lead? (b : Nat) : Option Lead :=
  if 0xc2 ≤ b ∧ b ≤ 0xdf then some ⟨b - 0xc0, 0x80, 0xbf, 0⟩
  else if b = 0xe0 then some ⟨0, 0xa0, 0xbf, 1⟩
  else if b = 0xed then some ⟨13, 0x80, 0x9f, 1⟩
  else if 0xe1 ≤ b ∧ b ≤ 0xef then some ⟨b - 0xe0, 0x80, 0xbf, 1⟩
  else if b = 0xf0 then some ⟨0, 0x90, 0xbf, 2⟩
  else if b = 0xf4 then some ⟨4, 0x80, 0x8f, 2⟩
  else if 0xf1 ≤ b ∧ b ≤ 0xf3 then some ⟨b - 0xf0, 0x80, 0xbf, 2⟩
  else none

/-- Takes a byte between `low` and `high`, and then `more` of any continuation. -/
def tail (code low high : Nat) : Nat → List UInt8 → Except DecodeError (Nat × List UInt8)
  | _, [] => .error .unexpectedEnd
  | more, b :: bs =>
    if low ≤ b.toNat ∧ b.toNat ≤ high then
      let code := code * 0x40 + (b.toNat - 0x80)
      match more with
      | 0 => .ok (code, bs)
      | more + 1 => tail code 0x80 0xbf more bs
    else .error .invalidContinuation

/-- The first character, and the bytes after it. -/
def decodeChar (b : UInt8) (bs : List UInt8) : Except DecodeError (Char × List UInt8) :=
  if b.toNat < 0x80 then .ok (Char.ofNat b.toNat, bs)
  else
    match lead? b.toNat with
    | none => .error .invalidStart
    | some lead => do
      let (code, rest) ← tail lead.bits lead.low lead.high lead.more bs
      return (Char.ofNat code, rest)

theorem length_tail_lt {code low high more : Nat} {bs rest : List UInt8} {n : Nat}
    (h : tail code low high more bs = .ok (n, rest)) : rest.length < bs.length := by
  fun_induction tail code low high more bs <;> simp_all
  omega

theorem length_decodeChar_le {b : UInt8} {bs rest : List UInt8} {c : Char}
    (h : decodeChar b bs = .ok (c, rest)) : rest.length ≤ bs.length := by
  unfold decodeChar at h
  split at h
  · simp only [Except.ok.injEq, Prod.mk.injEq] at h
    exact Nat.le_of_eq (congrArg List.length h.2.symm)
  · split at h
    · simp at h
    · simp only [bind, Except.bind] at h
      split at h
      · simp at h
      · rename_i ht
        simp only [pure, Except.pure, Except.ok.injEq, Prod.mk.injEq] at h
        rw [← h.2]
        exact Nat.le_of_lt (length_tail_lt ht)

def decode : List UInt8 → Except DecodeError Text
  | [] => .ok []
  | b :: bs =>
    match _h : decodeChar b bs with
    | .error e => .error e
    | .ok (c, rest) => do return c :: (← decode rest)
termination_by bs => bs.length
decreasing_by
  have := length_decodeChar_le _h
  simp only [List.length_cons]
  omega

end PatternLint.Utf8
