import Switchboard.Scripted.Network
import Switchboard.Session.Requests
/-!
# Request ids never meet

An id is a mark, a hyphen and a number. The number has no hyphen, so the last hyphen of an id ends
its mark, whatever hyphens the mark may have: an id tells its mark and its number (`idAt_inj`). So
sessions with different marks share no id, as in rehearsals, where the mark of a session tells its
serial number (`scriptedMark_inj`).
-/

namespace Switchboard

namespace Requests

theorem toList_idAt (mark : String) (n : Nat) :
    (idAt mark n).toList = mark.toList ++ '-' :: Nat.toDigits 10 n := by
  unfold idAt
  simp
  rfl

theorem hyphen_not_mem_toDigits (n : Nat) : '-' ∉ Nat.toDigits 10 n := by
  intro mem
  have digit := Nat.isDigit_of_mem_toDigits (by decide) (by decide) mem
  exact absurd digit (by decide)

theorem toDigits_inj {m n : Nat} (h : Nat.toDigits 10 m = Nat.toDigits 10 n) : m = n := by
  rw [← Nat.ofDigitChars_ten_toDigits (n := m), h, Nat.ofDigitChars_ten_toDigits]

/-- Two texts that end in a hyphen and digits agree before it and after it. -/
theorem split_at_hyphen {as bs xs ys : List Char} (hx : '-' ∉ xs) (hy : '-' ∉ ys)
    (h : as ++ '-' :: xs = bs ++ '-' :: ys) : as = bs ∧ xs = ys := by
  induction as generalizing bs with
  | nil =>
    cases bs with
    | nil => simpa using h
    | cons b bs =>
      simp only [List.nil_append, List.cons_append, List.cons.injEq] at h
      rw [h.2] at hx
      simp at hx
  | cons a as ih =>
    cases bs with
    | nil =>
      simp only [List.nil_append, List.cons_append, List.cons.injEq] at h
      rw [← h.2] at hy
      simp at hy
    | cons b bs =>
      simp only [List.cons_append, List.cons.injEq] at h
      obtain ⟨rfl, rfl⟩ := ih h.2
      exact ⟨by rw [h.1], rfl⟩

theorem idAt_inj {mark mark' : String} {m n : Nat} :
    idAt mark m = idAt mark' n ↔ mark = mark' ∧ m = n := by
  refine ⟨fun h => ?_, fun ⟨hm, hn⟩ => by rw [hm, hn]⟩
  have texts := congrArg String.toList h
  rw [toList_idAt, toList_idAt] at texts
  obtain ⟨marks, digits⟩ :=
    split_at_hyphen (hyphen_not_mem_toDigits m) (hyphen_not_mem_toDigits n) texts
  exact ⟨String.toList_inj.mp marks, toDigits_inj digits⟩

end Requests

/-- Zeros in front do not change the number that digits spell. -/
theorem ofDigitChars_sevenDigits (n : Nat) :
    Nat.ofDigitChars 10 (sevenDigits n).toList 0 = n := by
  unfold sevenDigits
  simp only [String.toList_ofList]
  rw [Nat.ofDigitChars_append, Nat.ofDigitChars_replicate_zero, Nat.mul_zero,
    Nat.ofDigitChars_ten_toDigits]

/-- In rehearsals, sessions with different serial numbers have different marks. -/
theorem scriptedMark_inj {m n : Nat} : scriptedMark m = scriptedMark n ↔ m = n := by
  refine ⟨fun h => ?_, fun h => by rw [h]⟩
  unfold scriptedMark at h
  have digits : (sevenDigits m).toList = (sevenDigits n).toList := by
    have texts := congrArg String.toList h
    simpa using texts
  rw [← ofDigitChars_sevenDigits m, digits, ofDigitChars_sevenDigits]

end Switchboard
