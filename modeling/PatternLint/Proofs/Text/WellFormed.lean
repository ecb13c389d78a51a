import Mathlib.Data.List.Forall2
import PatternLint.Proofs.Text.Utf8

/-! Well-formed UTF-8, said by the ranges of its bytes and without any code. Exactly the bytes that
are in this form are read as a text. -/

namespace PatternLint.Utf8

variable {b : UInt8} {bs rest bytes : List UInt8} {c : Char} {lead : Lead} {text : Text}
  {form : List (Nat × Nat)} {low high code more n : Nat}

/-- The ranges of the bytes of a character, a row for each form. The second byte is restricted where
a form would be overlong, name a surrogate or go past the last plane. -/
def forms : List (List (Nat × Nat)) := [
  [(0x00, 0x7f)],
  [(0xc2, 0xdf), (0x80, 0xbf)],
  [(0xe0, 0xe0), (0xa0, 0xbf), (0x80, 0xbf)],
  [(0xe1, 0xec), (0x80, 0xbf), (0x80, 0xbf)],
  [(0xed, 0xed), (0x80, 0x9f), (0x80, 0xbf)],
  [(0xee, 0xef), (0x80, 0xbf), (0x80, 0xbf)],
  [(0xf0, 0xf0), (0x90, 0xbf), (0x80, 0xbf), (0x80, 0xbf)],
  [(0xf1, 0xf3), (0x80, 0xbf), (0x80, 0xbf), (0x80, 0xbf)],
  [(0xf4, 0xf4), (0x80, 0x8f), (0x80, 0xbf), (0x80, 0xbf)]]

/-- There are as many bytes as ranges, each in its range. -/
def Fits (form : List (Nat × Nat)) (bytes : List UInt8) : Prop :=
  List.Forall₂ (fun range b => range.1 ≤ b.toNat ∧ b.toNat ≤ range.2) form bytes

/-- One character follows another, each in one of the forms. -/
inductive WellFormed : List UInt8 → Prop
  | nil : WellFormed []
  | char {form : List (Nat × Nat)} {bytes rest : List UInt8} (listed : form ∈ forms)
      (fits : Fits form bytes) (later : WellFormed rest) : WellFormed (bytes ++ rest)

/-- What a lead byte announces is the rest of a form. -/
theorem lead?_eq_some (h : lead? b.toNat = some lead) :
    ∃ first, first :: (lead.low, lead.high) :: List.replicate lead.more (0x80, 0xbf) ∈ forms ∧
      first.1 ≤ b.toNat ∧ b.toNat ≤ first.2 := by
  unfold lead? at h
  split at h
  · obtain rfl := Option.some.inj h
    exact ⟨(0xc2, 0xdf), by simp [forms], by omega⟩
  split at h
  · obtain rfl := Option.some.inj h
    exact ⟨(0xe0, 0xe0), by simp [forms], by omega⟩
  split at h
  · obtain rfl := Option.some.inj h
    exact ⟨(0xed, 0xed), by simp [forms], by omega⟩
  split at h
  · obtain rfl := Option.some.inj h
    -- The lead 0xed is not among these, so they are on either side of it.
    by_cases hbefore : b.toNat ≤ 0xec
    · exact ⟨(0xe1, 0xec), by simp [forms], by omega⟩
    · exact ⟨(0xee, 0xef), by simp [forms], by omega⟩
  split at h
  · obtain rfl := Option.some.inj h
    exact ⟨(0xf0, 0xf0), by simp [forms], by omega⟩
  split at h
  · obtain rfl := Option.some.inj h
    exact ⟨(0xf4, 0xf4), by simp [forms], by omega⟩
  split at h
  · obtain rfl := Option.some.inj h
    exact ⟨(0xf1, 0xf3), by simp [forms], by omega⟩
  · cases h

theorem fits_continuations (n count : Nat) :
    Fits (List.replicate count (0x80, 0xbf)) (continuations n count) := by
  induction count with
  | zero => exact .nil
  | succ count ih =>
    refine .cons ?_ ih
    rw [toNat_continuation]
    omega

theorem exists_form (c : Char) : ∃ form ∈ forms, Fits form (encodeChar c) := by
  by_cases h : c.toNat < 0x80
  · rw [encodeChar_one h]
    refine ⟨_, List.mem_cons_self, .cons ?_ .nil⟩
    rw [toNat_byte (by omega)]
    omega
  · obtain ⟨b, lead, hled⟩ := exists_ledBy (Nat.not_lt.1 h)
    obtain ⟨first, hform, hfirst⟩ := lead?_eq_some hled.announced
    rw [hled.encoded]
    refine ⟨_, hform, .cons hfirst (.cons ?_ (fits_continuations _ _))⟩
    rw [toNat_continuation]
    exact ⟨hled.low_le, hled.le_high⟩

theorem wellFormed_encode (text : Text) : WellFormed (encode text) := by
  induction text with
  | nil => exact .nil
  | cons c text ih =>
    obtain ⟨form, hform, hfits⟩ := exists_form c
    rw [encode, List.flatMap_cons]
    exact .char hform hfits ih

theorem tail_of_fits (hlow : low ≤ b.toNat) (hhigh : b.toNat ≤ high)
    (h : Fits (List.replicate more (0x80, 0xbf)) bs) (rest : List UInt8) (code : Nat) :
    ∃ n, tail code low high more (b :: (bs ++ rest)) = .ok (n, rest) := by
  induction more generalizing low high b bs code with
  | zero =>
    cases h
    rw [tail, if_pos ⟨hlow, hhigh⟩]
    exact ⟨_, rfl⟩
  | succ more ih =>
    cases h with
    | cons hb hbs =>
      rw [tail, if_pos ⟨hlow, hhigh⟩]
      exact ih hb.1 hb.2 hbs _

/-- A first byte of a longer form announces the rest of it. -/
theorem lead?_of_form {first second : Nat × Nat} {later : List (Nat × Nat)}
    (h : first :: second :: later ∈ forms) (hfirst : first.1 ≤ b.toNat ∧ b.toNat ≤ first.2) :
    ∃ lead, lead? b.toNat = some lead ∧ second = (lead.low, lead.high) ∧
      later = List.replicate lead.more (0x80, 0xbf) := by
  have hannounced : (lead? b.toNat).map (fun lead => (lead.low, lead.high, lead.more)) =
        some (second.1, second.2, later.length) ∧
      later = List.replicate later.length (0x80, 0xbf) := by
    simp only [forms, List.mem_cons, List.cons.injEq, List.not_mem_nil, or_false] at h
    unfold lead?
    rcases h with h | h | h | h | h | h | h | h | h
    · cases h.2
    all_goals
      obtain ⟨rfl, rfl, rfl⟩ := h
      exact ⟨by grind, rfl⟩
  obtain ⟨hlead, hlater⟩ := hannounced
  obtain ⟨lead, hlead, heq⟩ := Option.map_eq_some_iff.1 hlead
  obtain ⟨hlow, hhigh, hmore⟩ : lead.low = second.1 ∧ lead.high = second.2 ∧
      lead.more = later.length := by simpa using heq
  exact ⟨lead, hlead, by rw [hlow, hhigh], by rw [hmore]; exact hlater⟩

theorem decodeChar_of_fits (hform : form ∈ forms) (hfits : Fits form bytes) (rest : List UInt8) :
    ∃ b bs c, bytes = b :: bs ∧ decodeChar b (bs ++ rest) = .ok (c, rest) := by
  cases hfits with
  | nil => simp [forms] at hform
  | cons hfirst hlater =>
    rename_i first b ranges bs
    cases hlater with
    | nil =>
      have hascii : b.toNat < 0x80 := by
        simp [forms] at hform
        grind
      exact ⟨b, [], _, rfl, if_pos hascii⟩
    | cons hsecond hmore =>
      rename_i second b' later bs
      obtain ⟨lead, hlead, rfl, rfl⟩ := lead?_of_form hform hfirst
      have hascii : ¬b.toNat < 0x80 := by
        intro hascii
        rw [lead?_of_lt hascii] at hlead
        cases hlead
      obtain ⟨n, htail⟩ := tail_of_fits hsecond.1 hsecond.2 hmore rest lead.bits
      refine ⟨b, b' :: bs, Char.ofNat n, rfl, ?_⟩
      rw [decodeChar, if_neg hascii, hlead]
      simp only [List.cons_append, htail, bind, Except.bind, pure, Except.pure]

theorem exists_decode (h : WellFormed bytes) : ∃ text, decode bytes = .ok text := by
  induction h with
  | nil => exact ⟨[], by rw [decode]⟩
  | @char form bytes rest hform hfits _ ih =>
    obtain ⟨text, htext⟩ := ih
    obtain ⟨b, bs, c, rfl, hchar⟩ := decodeChar_of_fits hform hfits rest
    exact ⟨c :: text, decode_cons hchar htext⟩

/-- Bytes are read as a text exactly if they are well-formed. -/
theorem exists_decode_iff : (∃ text, decode bytes = .ok text) ↔ WellFormed bytes := by
  refine ⟨?_, exists_decode⟩
  rintro ⟨text, h⟩
  rw [← encode_of_decode h]
  exact wellFormed_encode text

theorem encodeChar_eq (c : Char) : encodeChar c = String.utf8EncodeChar c := by
  have hvalid := toNat_valid c
  have hn : c.val.toNat = c.toNat := rfl
  have h1 : c.toNat ≤ 127 ↔ c.toNat < 0x80 := by omega
  have h2 : c.toNat ≤ 2047 ↔ c.toNat < 0x800 := by omega
  have h3 : c.toNat ≤ 65535 ↔ c.toNat < 0x10000 := by omega
  simp only [encodeChar, String.utf8EncodeChar, continuation, hn, h1, h2, h3, Nat.add_comm 0x80]
  split
  · rfl
  split
  · have hlead : 0xc0 + c.toNat / 0x40 = c.toNat / 64 % 32 + 192 := by omega
    rw [hlead]
  split
  · have hlead : 0xe0 + c.toNat / 0x1000 = c.toNat / 4096 % 16 + 224 := by omega
    rw [hlead]
  · have hlead : 0xf0 + c.toNat / 0x40000 = c.toNat / 262144 % 8 + 240 := by omega
    rw [hlead]

/-- The encoding of a text is that of the string of its characters. -/
theorem encode_eq_flatMap (text : Text) : encode text = text.flatMap String.utf8EncodeChar := by
  unfold encode
  rw [funext encodeChar_eq]

end PatternLint.Utf8
