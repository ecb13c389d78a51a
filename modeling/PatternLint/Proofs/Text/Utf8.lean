import Mathlib.Algebra.Group.Nat.Defs
import PatternLint.Text.Utf8

/-! Bytes that are read as a text are the encoding of that text: no other bytes are read so, and
nothing is lost on the way. -/

namespace PatternLint.Utf8

variable {b : UInt8} {bs rest : List UInt8} {c : Char} {lead : Lead} {text : Text}
  {code low high more n : Nat}

/-- The last `count` bytes of a code that takes more than one. -/
def continuations (n : Nat) : Nat → List UInt8
  | 0 => []
  | count + 1 => continuation (n / 0x40 ^ count) :: continuations n count

theorem continuation_eq (hlow : 0x80 ≤ b.toNat) (h : n % 0x40 = b.toNat - 0x80) : continuation n = b := by
  unfold continuation
  rw [h, Nat.add_sub_cancel' hlow, UInt8.ofNat_toNat]

/-- The bytes that are taken are those of the code, and the first of them bounds it. -/
theorem tail_eq_ok (hlow : 0x80 ≤ low) (hhigh : high ≤ 0xbf)
    (h : tail code low high more bs = .ok (n, rest)) :
    bs = continuations n (more + 1) ++ rest ∧
      (code * 0x40 + (low - 0x80)) * 0x40 ^ more ≤ n ∧
      n < (code * 0x40 + (high - 0x80) + 1) * 0x40 ^ more := by
  fun_induction tail code low high more bs with
  | case1 => cases h
  | case2 code low high b bs hb code' =>
    obtain ⟨rfl, rfl⟩ := Prod.mk.inj (Except.ok.inj h)
    have hcontinuation : continuation (code' / 0x40 ^ 0) = b := by
      refine continuation_eq (by omega) ?_
      rw [Nat.pow_zero, Nat.div_one]
      omega
    refine ⟨?_, by omega, by omega⟩
    rw [continuations, continuations, hcontinuation]
    rfl
  | case3 code low high b bs hb code' more ih =>
    obtain ⟨hbs, hle, hlt⟩ := ih (Nat.le_refl _) (Nat.le_refl _) h
    have hle : code' * 0x40 ^ (more + 1) ≤ n := by
      have hnone : code' * 0x40 = code' * 0x40 + (0x80 - 0x80) := by omega
      rw [Nat.pow_succ, Nat.mul_comm (0x40 ^ more), ← Nat.mul_assoc, hnone]
      exact hle
    have hlt : n < (code' + 1) * 0x40 ^ (more + 1) := by
      have hfull : (code' + 1) * 0x40 = code' * 0x40 + (0xbf - 0x80) + 1 := by omega
      rw [Nat.pow_succ, Nat.mul_comm (0x40 ^ more), ← Nat.mul_assoc, hfull]
      exact hlt
    have hcontinuation : continuation (n / 0x40 ^ (more + 1)) = b := by
      rw [Nat.div_eq_of_lt_le hle hlt]
      refine continuation_eq (by omega) ?_
      omega
    refine ⟨?_, ?_, ?_⟩
    · rw [continuations, hcontinuation, hbs]
      rfl
    · exact Nat.le_trans (Nat.mul_le_mul_right _ (by omega)) hle
    · exact Nat.lt_of_lt_of_le hlt (Nat.mul_le_mul_right _ (by omega))
  | case4 => cases h

theorem toNat_ofNat (h : n.isValidChar) : (Char.ofNat n).toNat = n := by
  unfold Char.ofNat
  rw [dif_pos h]
  exact UInt32.toNat_ofNatLT

theorem encodeChar_one (h : c.toNat < 0x80) : encodeChar c = [UInt8.ofNat c.toNat] := by
  simp [encodeChar, h]

theorem encodeChar_two (hle : 0x80 ≤ c.toNat) (hlt : c.toNat < 0x800) :
    encodeChar c = UInt8.ofNat (0xc0 + c.toNat / 0x40) :: continuations c.toNat 1 := by
  simp [encodeChar, Nat.not_lt.2 hle, hlt, continuations]

theorem encodeChar_three (hle : 0x800 ≤ c.toNat) (hlt : c.toNat < 0x10000) :
    encodeChar c = UInt8.ofNat (0xe0 + c.toNat / 0x1000) :: continuations c.toNat 2 := by
  have h1 : ¬c.toNat < 0x80 := by omega
  simp [encodeChar, h1, Nat.not_lt.2 hle, hlt, continuations]

theorem encodeChar_four (hle : 0x10000 ≤ c.toNat) :
    encodeChar c = UInt8.ofNat (0xf0 + c.toNat / 0x40000) :: continuations c.toNat 3 := by
  have h1 : ¬c.toNat < 0x80 := by omega
  have h2 : ¬c.toNat < 0x800 := by omega
  simp [encodeChar, h1, h2, Nat.not_lt.2 hle, continuations]

/-- Within the bounds that a lead byte sets, a code is that of a character, and the encoding of
the character begins with that byte. -/
theorem encodeChar_of_lead (h : lead? b.toNat = some lead)
    (hle : (lead.bits * 0x40 + (lead.low - 0x80)) * 0x40 ^ lead.more ≤ n)
    (hlt : n < (lead.bits * 0x40 + (lead.high - 0x80) + 1) * 0x40 ^ lead.more) :
    encodeChar (Char.ofNat n) = b :: continuations n (lead.more + 1) := by
  have hb {m : Nat} (hm : m = b.toNat) : UInt8.ofNat m = b := by rw [hm, UInt8.ofNat_toNat]
  unfold lead? at h
  split at h
  · obtain rfl := Option.some.inj h
    dsimp only at hle hlt
    have hn := toNat_ofNat (n := n) (.inl (by omega))
    rw [encodeChar_two (by omega) (by omega), hn, hb (by omega)]
  split at h
  · obtain rfl := Option.some.inj h
    dsimp only at hle hlt
    have hn := toNat_ofNat (n := n) (.inl (by omega))
    rw [encodeChar_three (by omega) (by omega), hn, hb (by omega)]
  split at h
  · obtain rfl := Option.some.inj h
    dsimp only at hle hlt
    have hn := toNat_ofNat (n := n) (.inl (by omega))
    rw [encodeChar_three (by omega) (by omega), hn, hb (by omega)]
  split at h
  · obtain rfl := Option.some.inj h
    dsimp only at hle hlt
    -- Only the lead 0xed comes near the surrogates, and it is not among these.
    have hvalid : n.isValidChar := by
      unfold Nat.isValidChar
      omega
    have hn := toNat_ofNat hvalid
    rw [encodeChar_three (by omega) (by omega), hn, hb (by omega)]
  split at h
  · obtain rfl := Option.some.inj h
    dsimp only at hle hlt
    have hn := toNat_ofNat (n := n) (.inr ⟨by omega, by omega⟩)
    rw [encodeChar_four (by omega), hn, hb (by omega)]
  split at h
  · obtain rfl := Option.some.inj h
    dsimp only at hle hlt
    have hn := toNat_ofNat (n := n) (.inr ⟨by omega, by omega⟩)
    rw [encodeChar_four (by omega), hn, hb (by omega)]
  split at h
  · obtain rfl := Option.some.inj h
    dsimp only at hle hlt
    have hn := toNat_ofNat (n := n) (.inr ⟨by omega, by omega⟩)
    rw [encodeChar_four (by omega), hn, hb (by omega)]
  · cases h

theorem lead_range (h : lead? b.toNat = some lead) : 0x80 ≤ lead.low ∧ lead.high ≤ 0xbf := by
  unfold lead? at h
  grind

theorem decodeChar_eq_ok (h : decodeChar b bs = .ok (c, rest)) : encodeChar c ++ rest = b :: bs := by
  unfold decodeChar at h
  split at h
  · rename_i hascii
    obtain ⟨rfl, rfl⟩ := Prod.mk.inj (Except.ok.inj h)
    have hn : (Char.ofNat b.toNat).toNat = b.toNat := toNat_ofNat (.inl (by omega))
    rw [encodeChar_one (by omega), hn, UInt8.ofNat_toNat]
    rfl
  · split at h
    · cases h
    · rename_i lead hlead
      simp only [bind, Except.bind] at h
      split at h
      · cases h
      · rename_i out htail
        obtain ⟨n, rest'⟩ := out
        obtain ⟨rfl, rfl⟩ := Prod.mk.inj (Except.ok.inj h)
        obtain ⟨hlow, hhigh⟩ := lead_range hlead
        obtain ⟨hbs, hle, hlt⟩ := tail_eq_ok hlow hhigh htail
        rw [encodeChar_of_lead hlead hle hlt, hbs]
        rfl

theorem encode_of_decode (h : decode bs = .ok text) : encode text = bs := by
  fun_induction decode bs generalizing text with
  | case1 =>
    cases h
    rfl
  | case2 => cases h
  | case3 b bs c rest hchar ih =>
    simp only [bind, Except.bind] at h
    split at h
    · cases h
    · rename_i later hlater
      cases h
      rw [encode, List.flatMap_cons, ← decodeChar_eq_ok hchar]
      exact congrArg (encodeChar c ++ ·) (ih hlater)

theorem toNat_byte {m : Nat} (h : m < 0x100) : (UInt8.ofNat m).toNat = m :=
  UInt8.toNat_ofNat_of_lt' h

theorem toNat_continuation (n : Nat) : (continuation n).toNat = 0x80 + n % 0x40 := by
  unfold continuation
  exact toNat_byte (by omega)

theorem tail_continuations (hcode : n / 0x40 ^ (more + 1) = code)
    (hlow : low ≤ 0x80 + n / 0x40 ^ more % 0x40) (hhigh : 0x80 + n / 0x40 ^ more % 0x40 ≤ high) :
    tail code low high more (continuations n (more + 1) ++ rest) = .ok (n, rest) := by
  induction more generalizing code low high with
  | zero =>
    rw [Nat.pow_zero, Nat.div_one] at hlow hhigh
    have hn : code * 0x40 + (0x80 + n % 0x40 - 0x80) = n := by
      rw [Nat.zero_add, Nat.pow_one] at hcode
      omega
    simp only [continuations, Nat.pow_zero, Nat.div_one, List.cons_append, List.nil_append, tail,
      toNat_continuation, hlow, hhigh, and_self, if_true, hn]
  | succ more ih =>
    have hnext : code * 0x40 + (0x80 + n / 0x40 ^ (more + 1) % 0x40 - 0x80) =
        n / 0x40 ^ (more + 1) := by
      rw [Nat.pow_succ, ← Nat.div_div_eq_div_mul] at hcode
      omega
    rw [continuations, List.cons_append, tail, toNat_continuation, if_pos ⟨hlow, hhigh⟩]
    simp only [hnext]
    exact ih rfl (by omega) (by omega)

theorem toNat_valid (c : Char) :
    c.toNat < 0xd800 ∨ 0xdfff < c.toNat ∧ c.toNat < 0x110000 := c.valid

/-- The byte announces the bytes that the encoding of the character has after it. -/
structure LedBy (c : Char) (b : UInt8) (l : Lead) : Prop where
  announced : lead? b.toNat = some l
  encoded : encodeChar c = b :: continuations c.toNat (l.more + 1)
  bits : c.toNat / 0x40 ^ (l.more + 1) = l.bits
  low_le : l.low ≤ 0x80 + c.toNat / 0x40 ^ l.more % 0x40
  le_high : 0x80 + c.toNat / 0x40 ^ l.more % 0x40 ≤ l.high

theorem ledBy_two (hle : 0x80 ≤ c.toNat) (hlt : c.toNat < 0x800) :
    LedBy c (UInt8.ofNat (0xc0 + c.toNat / 0x40)) ⟨c.toNat / 0x40, 0x80, 0xbf, 0⟩ where
  announced := by
    rw [toNat_byte (by omega), lead?, if_pos (by omega), Nat.add_sub_cancel_left]
  encoded := encodeChar_two hle hlt
  bits := rfl
  low_le := by dsimp only; omega
  le_high := by dsimp only; omega

theorem exists_ledBy_three (hle : 0x800 ≤ c.toNat) (hlt : c.toNat < 0x10000) :
    ∃ l, LedBy c (UInt8.ofNat (0xe0 + c.toNat / 0x1000)) l := by
  have hb : (UInt8.ofNat (0xe0 + c.toNat / 0x1000)).toNat = 0xe0 + c.toNat / 0x1000 :=
    toNat_byte (by omega)
  by_cases h0 : c.toNat / 0x1000 = 0
  · refine ⟨⟨0, 0xa0, 0xbf, 1⟩, ?_, encodeChar_three hle hlt, h0, ?_, ?_⟩
    · rw [hb, h0]
      rfl
    · dsimp only
      omega
    · dsimp only
      omega
  by_cases h13 : c.toNat / 0x1000 = 13
  · have hvalid := toNat_valid c
    refine ⟨⟨13, 0x80, 0x9f, 1⟩, ?_, encodeChar_three hle hlt, h13, ?_, ?_⟩
    · rw [hb, h13]
      rfl
    · dsimp only
      omega
    · dsimp only
      omega
  · refine ⟨⟨c.toNat / 0x1000, 0x80, 0xbf, 1⟩, ?_, encodeChar_three hle hlt, rfl, ?_, ?_⟩
    · rw [hb, lead?, if_neg (by omega), if_neg (by omega), if_neg (by omega), if_pos (by omega),
        Nat.add_sub_cancel_left]
    · dsimp only
      omega
    · dsimp only
      omega

theorem exists_ledBy_four (hle : 0x10000 ≤ c.toNat) :
    ∃ l, LedBy c (UInt8.ofNat (0xf0 + c.toNat / 0x40000)) l := by
  have hvalid := toNat_valid c
  have hb : (UInt8.ofNat (0xf0 + c.toNat / 0x40000)).toNat = 0xf0 + c.toNat / 0x40000 :=
    toNat_byte (by omega)
  by_cases h0 : c.toNat / 0x40000 = 0
  · refine ⟨⟨0, 0x90, 0xbf, 2⟩, ?_, encodeChar_four hle, h0, ?_, ?_⟩
    · rw [hb, h0]
      rfl
    · dsimp only
      omega
    · dsimp only
      omega
  by_cases h4 : c.toNat / 0x40000 = 4
  · refine ⟨⟨4, 0x80, 0x8f, 2⟩, ?_, encodeChar_four hle, h4, ?_, ?_⟩
    · rw [hb, h4]
      rfl
    · dsimp only
      omega
    · dsimp only
      omega
  · refine ⟨⟨c.toNat / 0x40000, 0x80, 0xbf, 2⟩, ?_, encodeChar_four hle, rfl, ?_, ?_⟩
    · rw [hb, lead?, if_neg (by omega), if_neg (by omega), if_neg (by omega), if_neg (by omega),
        if_neg (by omega), if_neg (by omega), if_pos (by omega), Nat.add_sub_cancel_left]
    · dsimp only
      omega
    · dsimp only
      omega

theorem exists_ledBy (h : 0x80 ≤ c.toNat) : ∃ b l, LedBy c b l := by
  by_cases h2 : c.toNat < 0x800
  · exact ⟨_, _, ledBy_two h h2⟩
  by_cases h3 : c.toNat < 0x10000
  · exact ⟨_, exists_ledBy_three (Nat.not_lt.1 h2) h3⟩
  · exact ⟨_, exists_ledBy_four (Nat.not_lt.1 h3)⟩

theorem lead?_of_lt {m : Nat} (h : m < 0x80) : lead? m = none := by
  unfold lead?
  grind

theorem decodeChar_encodeChar (c : Char) (rest : List UInt8) :
    ∃ b bs, encodeChar c = b :: bs ∧ decodeChar b (bs ++ rest) = .ok (c, rest) := by
  by_cases h : c.toNat < 0x80
  · refine ⟨UInt8.ofNat c.toNat, [], encodeChar_one h, ?_⟩
    have hb : (UInt8.ofNat c.toNat).toNat = c.toNat := toNat_byte (by omega)
    rw [decodeChar, hb, if_pos h, Char.ofNat_toNat]
    rfl
  · obtain ⟨b, l, hled⟩ := exists_ledBy (Nat.not_lt.1 h)
    have hb : ¬b.toNat < 0x80 := by
      intro hb
      have hnone := hled.announced
      rw [lead?_of_lt hb] at hnone
      cases hnone
    refine ⟨b, _, hled.encoded, ?_⟩
    rw [decodeChar, if_neg hb, hled.announced]
    simp only [tail_continuations hled.bits hled.low_le hled.le_high, bind, Except.bind, pure,
      Except.pure, Char.ofNat_toNat]

theorem decode_cons (hchar : decodeChar b bs = .ok (c, rest)) (htext : decode rest = .ok text) :
    decode (b :: bs) = .ok (c :: text) := by
  rw [decode]
  split
  · rename_i e he
    rw [hchar] at he
    cases he
  · rename_i c' rest' hc
    rw [hchar] at hc
    cases hc
    rw [htext]
    rfl

/-- Every text is read back from its encoding. -/
theorem decode_encode_text (text : Text) : decode (encode text) = .ok text := by
  induction text with
  | nil => rw [encode, List.flatMap_nil, decode]
  | cons c text ih =>
    obtain ⟨b, bs, hencode, hdecode⟩ := decodeChar_encodeChar c (encode text)
    have hbytes : encode (c :: text) = b :: (bs ++ encode text) := by
      rw [encode, List.flatMap_cons, hencode]
      rfl
    rw [hbytes]
    exact decode_cons hdecode ih

end PatternLint.Utf8
