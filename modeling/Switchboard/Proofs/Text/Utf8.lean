import Switchboard.Text.Utf8
/-!
# Text survives its UTF-8 form

`Utf8.decode` reads back what `Utf8.encode` wrote (`decode_encode`). A character takes one to four
bytes by its size; each length has one lemma, which says that the decoder takes these bytes off the
text in front of it and gives the character. That surrogates are no characters is what keeps the
second byte of three within its bounds, and the last code point does so for the second of four.
-/

namespace Switchboard

namespace Utf8

/-- A byte that spells a number below 256. -/
theorem toNat_ofNat {n : Nat} (h : n < 256) : (UInt8.ofNat n).toNat = n := by
  rw [UInt8.toNat_ofNat']
  exact Nat.mod_eq_of_lt h

theorem isTail_iff {b : UInt8} : isTail b = true ↔ 0x80 ≤ b.toNat ∧ b.toNat ≤ 0xBF := by
  simp [isTail, UInt8.le_iff_toNat_le]

/-- What decoding makes of a character and the bytes after it. -/
abbrev Decodes (index : Nat) (bytes : Bytes) (n : Nat) (rest : Bytes) : Prop :=
  ∃ next, decodeFrom index (bytes ++ rest) = (Char.ofNat n :: ·) <$> decodeFrom next rest

section Lengths

variable {n : Nat} {a b c d : UInt8} (index : Nat) (rest : Bytes)

theorem decodes_one (small : n < 0x80) (ha : a.toNat = n) : Decodes index [a] n rest := by
  refine ⟨index + 1, ?_⟩
  rw [List.singleton_append, decodeFrom.eq_def]
  simp only [UInt8.lt_iff_toNat_lt, ha]
  rw [if_pos (by simpa using small)]

theorem decodes_two (least : 0x80 ≤ n) (most : n < 0x800) (ha : a.toNat = n / 64 + 0xC0)
    (hb : b.toNat = n % 64 + 0x80) : Decodes index [a, b] n rest := by
  have spelt : (a.toNat - 0xC0) * 64 + tailBits b = n := by
    unfold tailBits
    omega
  have first : 0xC2 ≤ a.toNat ∧ a.toNat ≤ 0xDF := by omega
  have second : isTail b = true := isTail_iff.mpr (by omega)
  refine ⟨index + 2, ?_⟩
  rw [List.cons_append, decodeFrom.eq_def]
  simp only [UInt8.lt_iff_toNat_lt, UInt8.le_iff_toNat_le, Bool.and_eq_true, decide_eq_true_eq]
  rw [if_neg (by simp; omega), if_pos (by simpa using first)]
  simp [second, spelt]

theorem decodes_three (least : 0x800 ≤ n) (most : n < 0x10000)
    (scalar : n < 0xD800 ∨ 0xDFFF < n) (ha : a.toNat = n / 4096 + 0xE0)
    (hb : b.toNat = n / 64 % 64 + 0x80) (hc : c.toNat = n % 64 + 0x80) :
    Decodes index [a, b, c] n rest := by
  have spelt : ((a.toNat - 0xE0) * 64 + tailBits b) * 64 + tailBits c = n := by
    unfold tailBits
    omega
  have first : 0xE0 ≤ a.toNat ∧ a.toNat ≤ 0xEF := by omega
  have second : secondOfThree a b = true := by
    unfold secondOfThree
    simp only [← UInt8.toNat_inj, UInt8.le_iff_toNat_le]
    split
    · next low => simp at low ⊢; omega
    split
    · next high => simp at high ⊢; omega
    · exact isTail_iff.mpr (by omega)
  have third : isTail c = true := isTail_iff.mpr (by omega)
  refine ⟨index + 3, ?_⟩
  rw [List.cons_append, decodeFrom.eq_def]
  simp only [UInt8.lt_iff_toNat_lt, UInt8.le_iff_toNat_le, Bool.and_eq_true, decide_eq_true_eq]
  rw [if_neg (by simp; omega), if_neg (by simp; omega), if_pos (by simpa using first)]
  simp [second, third, spelt]

theorem decodes_four (least : 0x10000 ≤ n) (most : n < 0x110000)
    (ha : a.toNat = n / 262144 + 0xF0) (hb : b.toNat = n / 4096 % 64 + 0x80)
    (hc : c.toNat = n / 64 % 64 + 0x80) (hd : d.toNat = n % 64 + 0x80) :
    Decodes index [a, b, c, d] n rest := by
  have spelt : (((a.toNat - 0xF0) * 64 + tailBits b) * 64 + tailBits c) * 64 + tailBits d = n := by
    unfold tailBits
    omega
  have first : 0xF0 ≤ a.toNat ∧ a.toNat ≤ 0xF4 := by omega
  have second : secondOfFour a b = true := by
    unfold secondOfFour
    simp only [← UInt8.toNat_inj, UInt8.le_iff_toNat_le]
    split
    · next low => simp at low ⊢; omega
    split
    · next high => simp at high ⊢; omega
    · exact isTail_iff.mpr (by omega)
  have third : isTail c = true := isTail_iff.mpr (by omega)
  have fourth : isTail d = true := isTail_iff.mpr (by omega)
  refine ⟨index + 4, ?_⟩
  rw [List.cons_append, decodeFrom.eq_def]
  simp only [UInt8.lt_iff_toNat_lt, UInt8.le_iff_toNat_le, Bool.and_eq_true, decide_eq_true_eq]
  rw [if_neg (by simp; omega), if_neg (by simp; omega), if_neg (by simp; omega),
    if_pos (by simpa using first)]
  simp [second, third, fourth, spelt]

end Lengths

theorem decodes_char (c : Char) (index : Nat) (rest : Bytes) :
    Decodes index (String.utf8EncodeChar c) c.toNat rest := by
  have scalar : c.toNat < 0xD800 ∨ 0xDFFF < c.toNat ∧ c.toNat < 0x110000 := c.valid
  have code : c.val.toNat = c.toNat := rfl
  unfold String.utf8EncodeChar
  simp only [code]
  split
  · exact decodes_one index rest (by omega) (toNat_ofNat (by omega))
  split
  · apply decodes_two index rest (by omega) (by omega)
    · rw [toNat_ofNat (by omega)]; omega
    · exact toNat_ofNat (by omega)
  split
  · apply decodes_three index rest (by omega) (by omega) (by omega)
    · rw [toNat_ofNat (by omega)]; omega
    · exact toNat_ofNat (by omega)
    · exact toNat_ofNat (by omega)
  · apply decodes_four index rest (by omega) (by omega)
    · rw [toNat_ofNat (by omega)]; omega
    · exact toNat_ofNat (by omega)
    · exact toNat_ofNat (by omega)
    · exact toNat_ofNat (by omega)

theorem decodeFrom_encode (text : List Char) (index : Nat) :
    decodeFrom index (encode text) = .ok text := by
  induction text generalizing index with
  | nil => exact decodeFrom.eq_1 index
  | cons c text ih =>
    obtain ⟨next, decoded⟩ := decodes_char c index (encode text)
    rw [Char.ofNat_toNat, ih next] at decoded
    exact decoded

theorem decode_encode (text : List Char) : decode (encode text) = .ok text :=
  decodeFrom_encode text 0

end Utf8

end Switchboard
