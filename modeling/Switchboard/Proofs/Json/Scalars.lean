import Switchboard.Json.Parser
import Switchboard.Json.Printer
/-!
# Strings and integers survive their text

A reader that stands before the text of a string or of an integer takes exactly this text and gives
the value back (`readString_escape`, `readNumber_toDigits`). A string ends at its quote. An integer
has no end mark, so what follows it must not be able to prolong it (`Stops`).
-/

namespace Switchboard

namespace Json

/-! ## Strings -/

theorem readString_quote (rest : List Char) : readString ('"' :: rest) = .ok ([], rest) := by
  rw [readString.eq_def]
  rfl

theorem readString_letter {e c : Char} (letter : unescape? e = some c) (notUnit : e ≠ 'u')
    (s : List Char) : readString ('\\' :: e :: s) = Reading.map (c :: ·) (readString s) := by
  rw [readString.eq_def]
  simp [letter, notUnit]

theorem readString_unit {a b c d : Char} {n : Nat} (unit : hexUnit? a b c d = some n)
    (control : n < 0x20) (s : List Char) :
    readString ('\\' :: 'u' :: a :: b :: c :: d :: s) =
      Reading.map (Char.ofNat n :: ·) (readString s) := by
  have low : isLowSurrogate n = false := by simp [isLowSurrogate]; omega
  have high : isHighSurrogate n = false := by simp [isHighSurrogate]; omega
  rw [readString.eq_def]
  simp [unit, low, high]

theorem readString_plain {c : Char} (quote : c ≠ '"') (slash : c ≠ '\\')
    (plain : ¬ c.toNat < 0x20) (s : List Char) :
    readString (c :: s) = Reading.map (c :: ·) (readString s) := by
  rw [readString.eq_def]
  simp only [if_neg quote, if_neg slash, if_neg plain]

theorem hexUnit?_control : ∀ n < 0x20,
    hexUnit? '0' '0' (Nat.digitChar (n / 16)) (Nat.digitChar (n % 16)) = some n := by
  decide

/-- The reader takes what one character is written as and goes on behind it. -/
theorem readString_escape_append (c : Char) (s : List Char) :
    readString (escape c ++ s) = Reading.map (c :: ·) (readString s) := by
  unfold escape
  split
  · next h => subst h; exact readString_letter (by decide) (by decide) s
  next quote =>
  split
  · next h => subst h; exact readString_letter (by decide) (by decide) s
  next slash =>
  split
  · next h => subst h; exact readString_letter (by decide) (by decide) s
  split
  · next h => subst h; exact readString_letter (by decide) (by decide) s
  split
  · next h => subst h; exact readString_letter (by decide) (by decide) s
  split
  · next h => subst h; exact readString_letter (by decide) (by decide) s
  split
  · next h => subst h; exact readString_letter (by decide) (by decide) s
  split
  · next control =>
    have read := readString_unit (hexUnit?_control c.toNat control) control s
    rwa [Char.ofNat_toNat] at read
  · next plain => exact readString_plain quote slash plain s

theorem readString_escape (cs : List Char) (rest : List Char) :
    readString (cs.flatMap escape ++ '"' :: rest) = .ok (cs, rest) := by
  induction cs with
  | nil => exact readString_quote rest
  | cons c cs ih =>
    rw [List.flatMap_cons, List.append_assoc, readString_escape_append, ih]
    rfl

/-! ## Integers -/

/-- What follows cannot be part of a number. -/
def Stops (rest : List Char) : Prop :=
  ∀ c ∈ rest.head?, c.isDigit = false ∧ c ≠ '.' ∧ c ≠ 'e' ∧ c ≠ 'E'

theorem stops_nil : Stops [] := nofun

theorem stops_cons {c : Char} (rest : List Char)
    (h : c.isDigit = false ∧ c ≠ '.' ∧ c ≠ 'e' ∧ c ≠ 'E') : Stops (c :: rest) := by
  intro d mem
  cases mem
  exact h

theorem Stops.startsWithDigit_eq {rest : List Char} (h : Stops rest) :
    startsWithDigit rest = false := by
  cases rest with
  | nil => rfl
  | cons c rest => exact (h c rfl).1

theorem readAfterWhole_of_stops {rest : List Char} (h : Stops rest) (negative : Bool)
    (significand : Nat) :
    readAfterWhole negative significand rest = .ok (ofWhole negative significand, rest) := by
  unfold readAfterWhole
  split
  · exact absurd rfl (h _ rfl).2.1
  · exact absurd rfl (h _ rfl).2.2.1
  · exact absurd rfl (h _ rfl).2.2.2
  · rfl

theorem le_ofDigitChars (cs : List Char) (n : Nat) : n ≤ Nat.ofDigitChars 10 cs n := by
  induction cs generalizing n with
  | nil => exact Nat.le_refl n
  | cons c cs ih =>
    rw [Nat.ofDigitChars_cons]
    apply Nat.le_trans _ (ih _)
    omega

/-- Digits that spell a word are all taken. -/
theorem takeDigits_append {cs rest : List Char} (digits : ∀ c ∈ cs, c.isDigit = true)
    (stops : startsWithDigit rest = false) (significand taken : Nat)
    (fits : Nat.ofDigitChars 10 cs significand < UInt64.size) :
    takeDigits significand taken (cs ++ rest) =
      (Nat.ofDigitChars 10 cs significand, taken + cs.length, rest) := by
  induction cs generalizing significand taken with
  | nil =>
    cases rest with
    | nil => rfl
    | cons c rest =>
      have stop : c.isDigit = false := stops
      simp [takeDigits, stop, Nat.ofDigitChars]
  | cons c cs ih =>
    have digit := digits c List.mem_cons_self
    have next : 10 * significand + (c.toNat - '0'.toNat) = significand * 10 + digitValue c := by
      unfold digitValue
      omega
    rw [Nat.ofDigitChars_cons, next] at fits ⊢
    have small := Nat.lt_of_le_of_lt (le_ofDigitChars cs _) fits
    rw [List.cons_append, takeDigits, if_pos ⟨digit, small⟩,
      ih (fun d mem => digits d (List.mem_cons_of_mem c mem)) _ _ fits, List.length_cons]
    congr 2
    omega

theorem isDigit_of_mem_toDigits {n : Nat} {c : Char} (h : c ∈ Nat.toDigits 10 n) :
    c.isDigit = true :=
  Nat.isDigit_of_mem_toDigits (by decide) (by decide) h

/-- Only zero is written with a leading zero. -/
theorem toDigits_eq_cons {n : Nat} (h : 0 < n) :
    ∃ c cs, Nat.toDigits 10 n = c :: cs ∧ c ≠ '0' := by
  induction n using Nat.strongRecOn with
  | ind n ih =>
    rw [Nat.toDigits_eq_if (by decide)]
    split
    · refine ⟨n.digitChar, [], rfl, ?_⟩
      simp
      omega
    · obtain ⟨c, cs, digits, notZero⟩ := ih (n / 10) (by omega) (by omega)
      exact ⟨c, cs ++ [Nat.digitChar (n % 10)], by rw [digits, List.cons_append], notZero⟩

theorem readNumber_toDigits {n : Nat} (fits : n < UInt64.size) {rest : List Char}
    (stops : Stops rest) (negative : Bool) :
    readNumber negative (Nat.toDigits 10 n ++ rest) = .ok (ofWhole negative n, rest) := by
  have ends := stops.startsWithDigit_eq
  rcases Nat.eq_zero_or_pos n with rfl | positive
  · simp [readNumber, ends, readAfterWhole_of_stops stops]
  · obtain ⟨c, cs, written, notZero⟩ := toDigits_eq_cons positive
    have digits : ∀ d ∈ c :: cs, d.isDigit = true := fun d mem =>
      isDigit_of_mem_toDigits (n := n) (by rw [written]; exact mem)
    have spelt : Nat.ofDigitChars 10 cs (digitValue c) = n := by
      have whole := Nat.ofDigitChars_ten_toDigits (n := n)
      rwa [written, Nat.ofDigitChars_cons, Nat.mul_zero, Nat.zero_add] at whole
    have taken := takeDigits_append (fun d mem => digits d (List.mem_cons_of_mem c mem)) ends
      (digitValue c) 1 (by rw [spelt]; exact fits)
    rw [written, List.cons_append, readNumber, if_neg notZero,
      if_pos (digits c List.mem_cons_self), taken, spelt]
    simp only [ends, Bool.false_eq_true, ↓reduceIte]
    exact readAfterWhole_of_stops stops negative n

/-- A negative integer of the signed range is no double. -/
theorem ofWhole_true {n : Nat} (positive : 0 < n) (least : minInteger ≤ -(n : Int)) :
    ofWhole true n = .int (-n) := by
  have notFloat : ¬ (n = 0 ∨ -(n : Int) < minInteger) := by omega
  simp only [ofWhole, Bool.not_true, Bool.false_eq_true, ↓reduceIte, if_neg notFloat]

end Json

end Switchboard
