import Switchboard.Proofs.Json.Weight
import Mathlib.Algebra.Group.Nat.Defs
/-!
# What a reader spends

A reader of JSON takes at least as many bytes off its text as the value that it gives weighs
(`spends_readValue`): blanks, escapes, leading keys that are bound again and the digits of doubles
only add to the text. What it gives is in order and nests no deeper than the reader may go. So the
compact text of a value without doubles is no longer than any text of that value (`parse_spends`).
-/

namespace Switchboard

namespace Json

open Utf8 (size)

/-- A reading gives a value with a property, and the value and the text behind it weigh no more than
the budget. -/
def Spends {α : Type} (p : α → Prop) (weight : α → Nat) (budget : Nat) (r : Reading α) : Prop :=
  ∀ a rest, r = .ok (a, rest) → p a ∧ weight a + size rest ≤ budget

namespace Spends

variable {α β : Type} {p : α → Prop} {q : β → Prop} {w : α → Nat} {w' : β → Nat} {n n' : Nat}
  {r : Reading α}

theorem error (e : Fault) : Spends p w n (.error e) := nofun

theorem ok {a : α} {rest : List Char} (h : p a) (le : w a + size rest ≤ n) :
    Spends p w n (.ok (a, rest)) := by
  rintro _ _ ⟨⟩
  exact ⟨h, le⟩

theorem andThen (h : Spends p w n r) {next : α → List Char → Reading β}
    (k : ∀ a rest, p a → w a + size rest ≤ n → Spends q w' n' (next a rest)) :
    Spends q w' n' (r.andThen next) := by
  cases r with
  | error e => exact .error e
  | ok read =>
    obtain ⟨holds, le⟩ := h _ _ rfl
    exact k _ _ holds le

theorem map (h : Spends p w n r) {f : α → β} (holds : ∀ a, p a → q (f a))
    (weighs : ∀ a, p a → w' (f a) + n ≤ w a + n') : Spends q w' n' (r.map f) := by
  refine h.andThen fun a rest pa le => .ok (holds a pa) ?_
  have more := weighs a pa
  omega

theorem mono (h : Spends p w n r) (le : n ≤ n') : Spends p w n' r := fun a rest read =>
  (h a rest read).imp_right (Nat.le_trans · le)

end Spends

/-! ## Strings -/

theorem utf8Size_digitChar : ∀ k < 16, (Nat.digitChar k).utf8Size = 1 := by decide

/-- No character is written with more than a six-letter escape. -/
theorem size_escape_le (c : Char) : size (escape c) ≤ 6 := by
  unfold escape
  -- The fixed escapes have two letters.
  iterate 7
    split
    · decide
  split
  · next control =>
    have high := utf8Size_digitChar (c.toNat / 16) (by omega)
    have low := utf8Size_digitChar (c.toNat % 16) (by omega)
    rw [Utf8.size_cons, Utf8.size_cons, Utf8.size_cons, Utf8.size_cons, Utf8.size_cons,
      Utf8.size_cons, high, low]
    decide
  · have most := c.utf8Size_le_four
    rw [Utf8.size_cons, Utf8.size_nil]
    omega

/-- A character that has a two-letter escape is written with two letters at most. -/
theorem size_escape_unescape {e c : Char} (letter : unescape? e = some c) :
    size (escape c) ≤ 2 := by
  unfold unescape? at letter
  split at letter
  · next h =>
    cases letter
    rcases h with rfl | rfl | rfl <;> decide
  iterate 5
    split at letter
    · cases letter
      decide
  · cases letter

theorem escape_plain {c : Char} (quote : c ≠ '"') (slash : c ≠ '\\')
    (plain : ¬ c.toNat < 0x20) : escape c = [c] := by
  have control (d : Char) (low : d.toNat < 0x20) : c ≠ d := by
    rintro rfl
    exact plain low
  unfold escape
  rw [if_neg quote, if_neg slash, if_neg (control '\x08' (by decide)),
    if_neg (control '\x0c' (by decide)), if_neg (control '\n' (by decide)),
    if_neg (control '\r' (by decide)), if_neg (control '\t' (by decide)), if_neg plain]

/-- The spelling of a character takes no less than what the character is written as. -/
theorem spends_readString_cons {rest : List Char} (c : Char) (spelling : List Char)
    (ih : Spends (fun _ => True) (fun cs => size (cs.flatMap escape) + 1) (size rest)
      (readString rest)) (le : size (escape c) ≤ size spelling) :
    Spends (fun _ => True) (fun cs => size (cs.flatMap escape) + 1) (size (spelling ++ rest))
      (Reading.map (c :: ·) (readString rest)) := by
  refine ih.map (fun _ _ => trivial) fun cs _ => ?_
  rw [List.flatMap_cons, Utf8.size_append, Utf8.size_append]
  omega

/-- What a string is written as is no longer than any spelling of it. -/
theorem spends_readString (s : List Char) :
    Spends (fun _ => True) (fun cs => size (cs.flatMap escape) + 1) (size s) (readString s) := by
  fun_induction readString s
  all_goals first | exact .error _ | skip
  case case2 rest =>
    refine .ok trivial ?_
    rw [List.flatMap_nil, Utf8.size_nil, Utf8.size_cons]
    have quote : '"'.utf8Size = 1 := rfl
    omega
  case case9 ih =>
    -- A pair of surrogates is spelt with twelve letters.
    refine spends_readString_cons _ ['\\', 'u', _, _, _, _, '\\', 'u', _, _, _, _] ih ?_
    exact Nat.le_trans (size_escape_le _) (Utf8.le_size_of_le_length (by simp))
  case case14 ih =>
    refine spends_readString_cons _ ['\\', 'u', _, _, _, _] ih ?_
    exact Nat.le_trans (size_escape_le _) (Utf8.le_size_of_le_length (by simp))
  case case16 letter _ ih =>
    refine spends_readString_cons _ ['\\', _] ih ?_
    exact Nat.le_trans (size_escape_unescape letter) (Utf8.le_size_of_le_length (by simp))
  case case19 c rest quote slash plain ih =>
    refine spends_readString_cons c [c] ih ?_
    exact Nat.le_of_eq (congrArg size (escape_plain quote slash plain))

/-! ## Numbers -/

/-- A value that is in order throughout and nests no deeper than `d`. -/
structure Proper (d : Nat) (v : Json) : Prop where
  ordered : v.Every Ordered
  depth : v.depth ≤ d

theorem proper_of_flat {d : Nat} {v : Json} (ordered : v.Every Ordered) (flat : v.depth = 0) :
    Proper d v :=
  ⟨ordered, flat ▸ Nat.zero_le d⟩

theorem proper_float (d : Nat) (x : Binary64) : Proper d (.float x) := proper_of_flat trivial rfl

theorem spends_readFloat {d n : Nat} {rest : List Char} (le : size rest ≤ n) (negative : Bool)
    (significand : Nat) (e : Int) :
    Spends (Proper d) weight n (readFloat negative significand e rest) := by
  unfold readFloat
  split
  · refine .ok (proper_float d _) ?_
    rw [weight, Nat.zero_add]
    exact le
  · exact .error _

theorem spends_readExponent {d n : Nat} {s : List Char} (le : size s ≤ n) (negative : Bool)
    (significand : Nat) (e : Int) :
    Spends (Proper d) weight n (readExponent negative significand e s) := by
  fun_cases readExponent negative significand e s with
  | case1 => exact .error _
  | case2 down c rest _ _ _ signed =>
    have shorter : size (c :: rest) ≤ size s := by
      split at signed <;> cases signed
      · exact Nat.le_add_left _ _
      · exact Nat.le_add_left _ _
      · exact Nat.le_refl _
    have shorterToo := Utf8.size_dropWhile_le Char.isDigit rest
    rw [Utf8.size_cons] at shorter
    exact spends_readFloat (by omega) _ _ _
  | case3 => exact .error _

theorem spends_readTail {d n : Nat} {s : List Char} (le : size s ≤ n) (negative : Bool)
    (significand : Nat) (e : Int) :
    Spends (Proper d) weight n (readTail negative significand e s) := by
  unfold readTail
  split
  · exact spends_readExponent (Nat.le_trans (Nat.le_add_left _ _) le) _ _ _
  · exact spends_readExponent (Nat.le_trans (Nat.le_add_left _ _) le) _ _ _
  · exact spends_readFloat le _ _ _

theorem toNat_of_isDigit {c : Char} (digit : c.isDigit = true) : 48 ≤ c.toNat ∧ c.toNat ≤ 57 :=
  Char.isDigit_iff_toNat.mp digit

theorem digitValue_le {c : Char} (digit : c.isDigit = true) : digitValue c ≤ 9 :=
  Nat.sub_le_of_le_add (toNat_of_isDigit digit).2

/-- A number of digits is taken, and what they spell is no greater than what so many digits can
spell. -/
theorem takeDigits_spec {significand taken word taken' : Nat} {s rest : List Char}
    (digits : takeDigits significand taken s = (word, taken', rest)) :
    ∃ count, count + size rest ≤ size s ∧ word < (significand + 1) * 10 ^ count ∧
      (significand < UInt64.size → word < UInt64.size) := by
  fun_induction takeDigits significand taken s with
  | case1 significand taken =>
    cases digits
    exact ⟨0, Nat.le_refl _, by omega, id⟩
  | case2 significand taken c s fits ih =>
    obtain ⟨count, shorter, spelt, word⟩ := ih digits
    refine ⟨count + 1, ?_, Nat.lt_of_lt_of_le spelt ?_, fun _ => word fits.2⟩
    · have first := c.utf8Size_pos
      rw [Utf8.size_cons]
      omega
    · have digit := digitValue_le fits.1
      rw [Nat.pow_succ', ← Nat.mul_assoc]
      exact Nat.mul_le_mul_right _ (by omega)
  | case3 significand taken c s =>
    cases digits
    exact ⟨0, Nat.le_of_eq (Nat.zero_add _), by omega, id⟩

theorem spends_readFraction {d n : Nat} {s : List Char} (le : size s ≤ n) (negative : Bool)
    (significand : Nat) (e : Int) :
    Spends (Proper d) weight n (readFraction negative significand e s) := by
  fun_cases readFraction negative significand e s with
  | case1 word taken rest digits =>
    obtain ⟨count, shorter, -⟩ := takeDigits_spec digits
    have shorterToo := Utf8.size_dropWhile_le Char.isDigit rest
    exact spends_readTail (by omega) _ _ _
  | case2 => exact .error _
  | case3 => exact .error _
  | case4 word taken rest digits =>
    obtain ⟨count, shorter, -⟩ := takeDigits_spec digits
    exact spends_readTail (by omega) _ _ _

theorem spends_readLongWhole {d n : Nat} {s : List Char} (le : size s ≤ n) (negative : Bool)
    (significand : Nat) :
    Spends (Proper d) weight n (readLongWhole negative significand s) := by
  have shorter := Utf8.size_dropWhile_le Char.isDigit s
  unfold readLongWhole
  dsimp only
  split
  · next rest tail =>
    rw [tail, Utf8.size_cons] at shorter
    exact spends_readFraction (by omega) _ _ _
  · exact spends_readTail (by omega) _ _ _

/-- What a minus sign takes. -/
def signSize (negative : Bool) : Nat := if negative then 1 else 0

theorem size_toDigits_le {n k : Nat} (digits : n < 10 ^ k) (some : 0 < k) :
    size (Nat.toDigits 10 n) ≤ k := by
  have ascii : ∀ c ∈ Nat.toDigits 10 n, c.toNat < 0x80 := fun c mem => by
    have bounds := toNat_of_isDigit (isDigit_of_mem_toDigits mem)
    omega
  rw [Utf8.size_of_ascii ascii]
  exact (Nat.length_toDigits_le_iff (by decide) some).mpr digits

/-- A whole number weighs no more than its sign and its digits. -/
theorem weight_ofWhole_le {significand k : Nat} (digits : significand < 10 ^ k) (some : 0 < k)
    (negative : Bool) : (ofWhole negative significand).weight ≤ k + signSize negative := by
  have spelt := size_toDigits_le digits some
  fun_cases ofWhole negative significand with
  | case1 positive =>
    have text : renderInt significand = Nat.toDigits 10 significand := if_neg (by omega)
    show size (renderInt significand) ≤ _
    rw [text]
    exact Nat.le_trans spelt (Nat.le_add_right _ _)
  | case2 => exact Nat.zero_le _
  | case3 minus fits =>
    have text : renderInt (-significand) = '-' :: Nat.toDigits 10 significand := by
      unfold renderInt
      rw [if_pos (by omega), Int.natAbs_neg, Int.natAbs_natCast]
    have sign : signSize negative = 1 := if_pos (by simpa using minus)
    show size (renderInt (-significand)) ≤ _
    rw [text, Utf8.size_cons, sign, Nat.add_comm]
    exact Nat.add_le_add_right spelt 1

theorem proper_ofWhole {significand : Nat} (word : significand < UInt64.size) (d : Nat)
    (negative : Bool) : Proper d (ofWhole negative significand) := by
  unfold UInt64.size at word
  fun_cases ofWhole negative significand with
  | case1 positive =>
    refine ⟨(?_ : InRange _), Nat.zero_le d⟩
    unfold InRange minInteger maxInteger
    omega
  | case2 => exact proper_float d _
  | case3 minus fits =>
    refine ⟨(?_ : InRange _), Nat.zero_le d⟩
    unfold InRange maxInteger
    omega

theorem spends_readAfterWhole {d n k significand : Nat} {s : List Char}
    (digits : significand < 10 ^ k) (some : 0 < k) (word : significand < UInt64.size)
    (negative : Bool) (le : k + size s ≤ n) :
    Spends (Proper d) weight (n + signSize negative) (readAfterWhole negative significand s) := by
  unfold readAfterWhole
  split
  · rw [Utf8.size_cons] at le
    exact spends_readFraction (by omega) _ _ _
  · rw [Utf8.size_cons] at le
    exact spends_readExponent (by omega) _ _ _
  · rw [Utf8.size_cons] at le
    exact spends_readExponent (by omega) _ _ _
  · have spelt := weight_ofWhole_le digits some negative
    exact .ok (proper_ofWhole word d negative) (by omega)

/-- A number takes at least the digits that its value has, as no digit before them is zero. -/
theorem spends_readNumber {d : Nat} (negative : Bool) (s : List Char) :
    Spends (Proper d) weight (size s + signSize negative) (readNumber negative s) := by
  fun_cases readNumber negative s with
  | case1 => exact .error _
  | case2 rest => exact .error _
  | case3 rest =>
    exact spends_readAfterWhole (k := 1) (by decide) (by decide) (by decide) negative
      (Nat.le_refl _)
  | case4 c rest notZero digit word taken rest' digits more =>
    obtain ⟨count, shorter, -⟩ := takeDigits_spec digits
    rw [Utf8.size_cons]
    exact spends_readLongWhole (by omega) _ _
  | case5 c rest notZero digit word taken rest' digits ends =>
    obtain ⟨count, shorter, spelt, fits⟩ := takeDigits_spec digits
    have value := digitValue_le digit
    have most : word < 10 ^ (count + 1) := by
      rw [Nat.pow_succ']
      exact Nat.lt_of_lt_of_le spelt (Nat.mul_le_mul_right _ (by omega))
    have first := c.utf8Size_pos
    refine spends_readAfterWhole most (Nat.succ_pos _) (fits ?_) negative ?_
    · unfold UInt64.size
      omega
    · rw [Utf8.size_cons]
      omega
  | case6 => exact .error _

/-! ## Containers -/

theorem size_le_of_skipBlanks {s rest : List Char} {c : Char} (skipped : skipBlanks s = c :: rest) :
    size rest + 1 ≤ size s := by
  have shorter := Utf8.size_dropWhile_le isBlank s
  have first := c.utf8Size_pos
  unfold skipBlanks at skipped
  rw [skipped, Utf8.size_cons] at shorter
  omega

theorem size_cons_le_of_skipBlanks {s rest : List Char} {c : Char}
    (skipped : skipBlanks s = c :: rest) : size (c :: rest) ≤ size s := by
  rw [← skipped]
  exact Utf8.size_dropWhile_le isBlank s

section Contents

variable {d : Nat} {item : List Char → Reading Json}

theorem spends_readMoreItems (h : ∀ s, Spends (Proper d) weight (size s) (item s)) (fuel : Nat)
    (s : List Char) :
    Spends (fun items => ∀ v ∈ items, Proper d v) (fun items => weightItems items + 1) (size s)
      (readMoreItems item fuel s) := by
  fun_induction readMoreItems item fuel s
  all_goals first | exact .error _ | skip
  case case3 closes =>
    refine .ok (List.forall_mem_nil _) ?_
    rw [weightItems, Nat.zero_add, Nat.add_comm]
    exact size_le_of_skipBlanks closes
  case case6 starts _ comma _ ih =>
    have before := size_le_of_skipBlanks comma
    refine ((h _).mono (size_cons_le_of_skipBlanks starts)).andThen fun v s proper le => ?_
    refine (ih s).map (fun items all => List.forall_mem_cons.mpr ⟨proper, all⟩) fun items _ => ?_
    rw [weightItems]
    omega

theorem spends_readItems (h : ∀ s, Spends (Proper d) weight (size s) (item s)) (s : List Char) :
    Spends (fun items => ∀ v ∈ items, Proper d v) (fun items => max 1 (weightItems items)) (size s)
      (readItems item s) := by
  fun_cases readItems item s with
  | case1 => exact .error _
  | case2 rest closes =>
    refine .ok (List.forall_mem_nil _) ?_
    have before := size_le_of_skipBlanks closes
    rw [weightItems]
    omega
  | case3 c rest starts opens =>
    refine ((h _).mono (size_cons_le_of_skipBlanks starts)).andThen fun v s proper le => ?_
    refine (spends_readMoreItems h _ s).map
      (fun items all => List.forall_mem_cons.mpr ⟨proper, all⟩) fun items _ => ?_
    rw [weightItems]
    omega

theorem size_renderString (cs : List Char) :
    size (renderString (String.ofList cs)) = size (cs.flatMap escape) + 2 := by
  have quote : '"'.utf8Size = 1 := rfl
  unfold renderString
  rw [String.toList_ofList, Utf8.size_append, Utf8.size_cons, Utf8.size_cons, Utf8.size_nil, quote]
  omega

theorem spends_readMember (h : ∀ s, Spends (Proper d) weight (size s) (item s)) (s : List Char) :
    Spends (fun m => Proper d m.2) (fun m => size (renderString m.1) + m.2.weight) (size s)
      (readMember item s) := by
  unfold readMember
  refine (spends_readString s).andThen fun key s _ le => ?_
  split
  · exact .error _
  · next c rest colon =>
    have before := size_le_of_skipBlanks colon
    split
    · refine (h rest).map (fun v proper => proper) fun v _ => ?_
      dsimp only
      rw [size_renderString]
      omega
    · exact .error _

theorem spends_readMoreMembers (h : ∀ s, Spends (Proper d) weight (size s) (item s)) (fuel : Nat)
    (s : List Char) :
    Spends (fun members => ∀ m ∈ members, Proper d m.2) (fun members => weightMembers members + 1)
      (size s) (readMoreMembers item fuel s) := by
  fun_induction readMoreMembers item fuel s
  all_goals first | exact .error _ | skip
  case case3 closes =>
    refine .ok (List.forall_mem_nil _) ?_
    rw [weightMembers, Nat.zero_add, Nat.add_comm]
    exact size_le_of_skipBlanks closes
  case case5 comma _ quote ih =>
    have before := size_le_of_skipBlanks comma
    have opening := size_le_of_skipBlanks quote
    refine (spends_readMember h _).andThen fun m s proper le => ?_
    refine (ih s).map (fun members all => List.forall_mem_cons.mpr ⟨proper, all⟩)
      fun members _ => ?_
    rw [weightMembers]
    omega

theorem spends_readMembers (h : ∀ s, Spends (Proper d) weight (size s) (item s)) (s : List Char) :
    Spends (fun members => ∀ m ∈ members, Proper d m.2)
      (fun members => max 1 (weightMembers members)) (size s) (readMembers item s) := by
  fun_cases readMembers item s with
  | case1 => exact .error _
  | case2 rest closes =>
    refine .ok (List.forall_mem_nil _) ?_
    have before := size_le_of_skipBlanks closes
    rw [weightMembers]
    omega
  | case3 rest quote =>
    have opening := size_le_of_skipBlanks quote
    refine (spends_readMember h _).andThen fun m s proper le => ?_
    refine (spends_readMoreMembers h _ s).map
      (fun members all => List.forall_mem_cons.mpr ⟨proper, all⟩) fun members _ => ?_
    rw [weightMembers]
    omega
  | case4 => exact .error _

end Contents

/-! ## Any value -/

theorem spends_readWord (value : Json) (word s : List Char) :
    Spends (· = value) (fun _ => word.length) (size s) (readWord value word s) := by
  induction word generalizing s with
  | nil => exact .ok rfl (Nat.le_of_eq (Nat.zero_add _))
  | cons c word ih =>
    cases s with
    | nil => exact .error _
    | cons c' s =>
      unfold readWord
      split
      · have first := c'.utf8Size_pos
        intro v rest read
        obtain ⟨same, le⟩ := ih s v rest read
        refine ⟨same, ?_⟩
        dsimp only at le ⊢
        rw [List.length_cons, Utf8.size_cons]
        omega
      · exact .error _

/-- A word is read after its first letter. -/
theorem spends_word {depth : Nat} {v : Json} {word s rest : List Char} {c : Char}
    (proper : Proper depth v) (weighs : v.weight = word.length + 1)
    (starts : skipBlanks s = c :: rest) :
    Spends (Proper depth) weight (size s) (readWord v word rest) := by
  have before := size_le_of_skipBlanks starts
  intro v' rest' read
  obtain ⟨rfl, le⟩ := spends_readWord v word rest v' rest' read
  refine ⟨proper, ?_⟩
  dsimp only at le
  omega

theorem proper_arr {d : Nat} {items : List Json} (h : ∀ v ∈ items, Proper d v) :
    Proper (d + 1) (.arr items) where
  ordered := ⟨trivial, everyItem_iff.mpr fun v mem => (h v mem).ordered⟩
  depth := Nat.succ_le_succ (depthItems_le_iff.mpr fun v mem => (h v mem).depth)

theorem proper_object {d : Nat} {members : List (String × Json)}
    (h : ∀ m ∈ members, Proper d m.2) : Proper (d + 1) (object members) := by
  have bound : ∀ m ∈ KeyMap.ofList members, Proper d m.2 := fun m mem =>
    h m (KeyMap.mem_of_mem_ofList mem)
  exact ⟨⟨KeyMap.sorted_ofList members, everyMember_iff.mpr fun m mem => (bound m mem).ordered⟩,
    Nat.succ_le_succ (depthMembers_le_iff.mpr fun m mem => (bound m mem).depth)⟩

/-- A value is read well if what it may contain is. -/
theorem spends_readValue_of {depth : Nat}
    (contents : ∀ d, depth = d + 1 → ∀ s, Spends (Proper d) weight (size s) (readValue depth s))
    (s : List Char) : Spends (Proper depth) weight (size s) (readValue (depth + 1) s) := by
  unfold readValue
  split
  · exact .error _
  next c rest starts =>
  have before := size_le_of_skipBlanks starts
  split
  · exact spends_word (proper_of_flat trivial rfl) rfl starts
  split
  · exact spends_word (proper_of_flat trivial rfl) rfl starts
  split
  · exact spends_word (proper_of_flat trivial rfl) rfl starts
  split
  · refine (spends_readString rest).map (fun cs _ => proper_of_flat trivial rfl) fun cs _ => ?_
    show size (renderString (String.ofList cs)) + _ ≤ _
    rw [size_renderString]
    omega
  split
  · exact (spends_readNumber true rest).mono before
  split
  · exact (spends_readNumber false (c :: rest)).mono (size_cons_le_of_skipBlanks starts)
  split
  · split
    · exact .error _
    next some =>
    obtain ⟨d, rfl⟩ := Nat.exists_eq_succ_of_ne_zero some
    refine (spends_readItems (contents d rfl) rest).map (fun items all => proper_arr all)
      fun items _ => ?_
    rw [weight]
    omega
  split
  · split
    · exact .error _
    next some =>
    obtain ⟨d, rfl⟩ := Nat.exists_eq_succ_of_ne_zero some
    refine (spends_readMembers (contents d rfl) rest).map (fun members all => proper_object all)
      fun members _ => ?_
    have weighs := weight_object members
    omega
  · exact .error _

theorem spends_readValue (depth : Nat) (s : List Char) :
    Spends (Proper depth) weight (size s) (readValue (depth + 1) s) := by
  induction depth generalizing s with
  | zero => exact spends_readValue_of (fun d same => absurd same.symm (Nat.succ_ne_zero d)) s
  | succ depth ih => exact spends_readValue_of (fun d same => by cases same; exact ih) s

/-- What is read from a text is in order, nests no more containers than a reader enters, and weighs
no more than the text. -/
theorem parse_spends {s : List Char} {v : Json} (h : parse s = .ok v) :
    Proper 127 v ∧ v.weight ≤ size s := by
  unfold parse at h
  split at h
  · cases h
  · next v' rest read =>
    split at h
    · cases h
      obtain ⟨proper, le⟩ := spends_readValue 127 s _ _ read
      exact ⟨proper, Nat.le_trans (Nat.le_add_right _ _) le⟩
    · cases h

end Json

end Switchboard
