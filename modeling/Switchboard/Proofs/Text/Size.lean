import Switchboard.Text.Utf8
/-!
# The size of a text

A character takes one to four bytes in UTF-8, and a text as many as its characters take
(`length_encode`). A decoder makes no more text of some bytes than they can spell
(`size_le_of_decode`).
-/

namespace Switchboard

namespace Utf8

/-- The bytes that a text takes. -/
def size : List Char → Nat
  | [] => 0
  | c :: text => c.utf8Size + size text

@[simp] theorem size_nil : size [] = 0 := rfl

@[simp] theorem size_cons (c : Char) (text : List Char) :
    size (c :: text) = c.utf8Size + size text := rfl

@[simp] theorem size_append (text more : List Char) :
    size (text ++ more) = size text + size more := by
  induction text with
  | nil => exact (Nat.zero_add _).symm
  | cons c text ih => rw [List.cons_append, size_cons, size_cons, ih, Nat.add_assoc]

theorem length_le_size (text : List Char) : text.length ≤ size text := by
  induction text with
  | nil => exact Nat.le_refl _
  | cons c text ih =>
    have first := c.utf8Size_pos
    rw [List.length_cons, size_cons]
    omega

theorem le_size_of_le_length {text : List Char} {n : Nat} (h : n ≤ text.length) : n ≤ size text :=
  Nat.le_trans h (length_le_size text)

theorem utf8Size_of_ascii {c : Char} (ascii : c.toNat < 0x80) : c.utf8Size = 1 := by
  have small : c.val ≤ 0x7F := by
    rw [UInt32.le_iff_toNat_le]
    exact Nat.le_of_lt_succ ascii
  exact if_pos small

theorem size_of_ascii {text : List Char} (ascii : ∀ c ∈ text, c.toNat < 0x80) :
    size text = text.length := by
  induction text with
  | nil => rfl
  | cons c text ih =>
    obtain ⟨first, more⟩ := List.forall_mem_cons.mp ascii
    rw [size_cons, utf8Size_of_ascii first, ih more, List.length_cons, Nat.add_comm]

theorem length_encode (text : List Char) : (encode text).length = size text := by
  induction text with
  | nil => rfl
  | cons c text ih =>
    have first : (String.utf8EncodeChar c).length = c.utf8Size := String.length_utf8EncodeChar c
    have more : encode (c :: text) = String.utf8EncodeChar c ++ encode text := rfl
    rw [more, List.length_append, first, ih, size_cons]

theorem size_dropWhile_le (p : Char → Bool) (text : List Char) :
    size (text.dropWhile p) ≤ size text := by
  induction text with
  | nil => exact Nat.le_refl _
  | cons c text ih =>
    rw [List.dropWhile_cons, size_cons]
    split
    · exact Nat.le_add_left_of_le ih
    · exact Nat.le_refl _

/-! ## Decoding -/

theorem toNat_ofNat_le (n : Nat) : (Char.ofNat n).toNat ≤ n := by
  by_cases valid : n.isValidChar
  · have made : Char.ofNat n = Char.ofNatAux n valid := dif_pos valid
    rw [made]
    exact Nat.le_refl n
  · have made : Char.ofNat n = '\x00' := dif_neg valid
    rw [made]
    exact Nat.zero_le n

section OfNat

variable {n : Nat}

theorem utf8Size_ofNat_le_one (h : n < 0x80) : (Char.ofNat n).utf8Size ≤ 1 :=
  Nat.le_of_eq (utf8Size_of_ascii (Nat.lt_of_le_of_lt (toNat_ofNat_le n) h))

theorem utf8Size_ofNat_le_two (h : n < 0x800) : (Char.ofNat n).utf8Size ≤ 2 := by
  have small : (Char.ofNat n).val ≤ 0x7FF := by
    rw [UInt32.le_iff_toNat_le]
    exact Nat.le_trans (toNat_ofNat_le n) (Nat.le_of_lt_succ h)
  unfold Char.utf8Size
  dsimp only
  split
  · decide
  · exact Nat.le_of_eq (if_pos small)

theorem utf8Size_ofNat_le_three (h : n < 0x10000) : (Char.ofNat n).utf8Size ≤ 3 := by
  have small : (Char.ofNat n).val ≤ 0xFFFF := by
    rw [UInt32.le_iff_toNat_le]
    exact Nat.le_trans (toNat_ofNat_le n) (Nat.le_of_lt_succ h)
  unfold Char.utf8Size
  dsimp only
  split
  · decide
  split
  · decide
  · exact Nat.le_of_eq (if_pos small)

end OfNat

/-- A character in front of what is decoded later. -/
theorem size_le_of_map {c : Char} {later : Except Fault (List Char)} {k n : Nat}
    {text : List Char} (first : c.utf8Size ≤ k)
    (more : ∀ {text : List Char}, later = .ok text → size text ≤ n)
    (decoded : (c :: ·) <$> later = .ok text) : size text ≤ n + k := by
  cases later with
  | error fault => cases decoded
  | ok rest =>
    cases decoded
    rw [size_cons, Nat.add_comm]
    exact Nat.add_le_add (more rfl) first

theorem tailBits_lt {b : UInt8} (h : b ≤ 0xBF) : tailBits b < 64 := by
  rw [UInt8.le_iff_toNat_le] at h
  have most : b.toNat ≤ 191 := h
  unfold tailBits
  omega

theorem le_of_isTail {b : UInt8} (h : isTail b = true) : b ≤ 0xBF :=
  of_decide_eq_true (Bool.and_eq_true_iff.mp h).2

theorem le_of_secondOfThree {a b : UInt8} (h : secondOfThree a b = true) : b ≤ 0xBF := by
  unfold secondOfThree at h
  split at h
  · exact of_decide_eq_true (Bool.and_eq_true_iff.mp h).2
  split at h
  · have low : b ≤ 0x9F := of_decide_eq_true (Bool.and_eq_true_iff.mp h).2
    exact UInt8.le_trans low (by decide)
  · exact le_of_isTail h

theorem size_le_of_decodeFrom {index : Nat} {bytes : Bytes} {text : List Char}
    (decoded : decodeFrom index bytes = .ok text) : size text ≤ bytes.length := by
  fun_induction decodeFrom index bytes generalizing text
  -- No text comes of the bytes at which the decoder stops.
  all_goals first | cases decoded <;> done | skip
  case case1 =>
    cases decoded
    exact Nat.le_refl _
  case case2 a rest ascii ih => exact size_le_of_map (utf8Size_ofNat_le_one ascii) ih decoded
  case case4 a _ leads b rest second ih =>
    have top : a ≤ 0xDF := of_decide_eq_true (Bool.and_eq_true_iff.mp leads).2
    rw [UInt8.le_iff_toNat_le] at top
    have most : a.toNat ≤ 223 := top
    have bits := tailBits_lt (le_of_isTail second)
    refine size_le_of_map (k := 2) (utf8Size_ofNat_le_two ?_) ih decoded
    omega
  case case8 a _ _ leads b second c rest third ih =>
    have top : a ≤ 0xEF := of_decide_eq_true (Bool.and_eq_true_iff.mp leads).2
    rw [UInt8.le_iff_toNat_le] at top
    have most : a.toNat ≤ 239 := top
    have bits := tailBits_lt (le_of_secondOfThree second)
    have bitsToo := tailBits_lt (le_of_isTail third)
    refine size_le_of_map (k := 3) (utf8Size_ofNat_le_three ?_) ih decoded
    omega
  case case14 ih => exact size_le_of_map (k := 4) (Char.utf8Size_le_four _) ih decoded

theorem size_le_of_decode {bytes : Bytes} {text : List Char} (decoded : decode bytes = .ok text) :
    size text ≤ bytes.length :=
  size_le_of_decodeFrom decoded

end Utf8

end Switchboard
