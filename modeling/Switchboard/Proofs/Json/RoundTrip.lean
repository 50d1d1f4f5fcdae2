import Switchboard.Proofs.Json.Scalars
import Switchboard.Proofs.KeyMap
/-!
# Values survive their text

A reader before the compact text of a value gives the value back, or finds it too deep: the reader
has a depth to spend and pays one for each container that it enters, so it gets through exactly the
values that nest no deeper (`reads_of_integersOnly`). A whole text starts with `depthLimit`, which
leaves room for 127 containers (`parse_render`).

Which fault comes first in a text is fixed by the order of reading; in the text of a value there is
no other fault than the depth, so the order does not matter. `Within` is a reading of this kind, and
two of them in a row are one of the deeper of the two.
-/

namespace Switchboard

namespace Json

/-! ## Readings that only the depth can stop -/

/-- The value and the text after it, if the depth that is left allows for what the value nests. -/
def Within {α : Type} (nests depth : Nat) (value : α) (rest : List Char) : Reading α :=
  if nests ≤ depth then .ok (value, rest) else .error .tooDeep

section Within

variable {α β : Type} {depth : Nat}

theorem within_zero (value : α) (rest : List Char) : Within 0 depth value rest = .ok (value, rest) :=
  if_pos (Nat.zero_le depth)

@[simp] theorem map_within (f : α → β) (nests : Nat) (value : α) (rest : List Char) :
    Reading.map f (Within nests depth value rest) = Within nests depth (f value) rest := by
  unfold Within
  split <;> rfl

theorem within_andThen {nests more : Nat} {a : α} {b : β} {s rest : List Char}
    {next : α → List Char → Reading β} (h : next a s = Within more depth b rest) :
    Reading.andThen (Within nests depth a s) next = Within (max nests more) depth b rest := by
  unfold Within at h ⊢
  by_cases fits : nests ≤ depth
  · rw [if_pos fits, Reading.andThen_ok, h]
    by_cases fitsToo : more ≤ depth
    · rw [if_pos fitsToo, if_pos (by omega)]
    · rw [if_neg fitsToo, if_neg (by omega)]
  · rw [if_neg fits, if_neg (by omega)]
    rfl

end Within

/-! ## The first character of a text -/

/-- The text of a value starts neither with a blank nor with a closing bracket. -/
structure Opens (c : Char) : Prop where
  blank : isBlank c = false
  bracket : c ≠ ']'

theorem opens_digit {c : Char} (h : c.isDigit = true) : Opens c := by
  refine ⟨?_, ?_⟩
  · cases blank : isBlank c with
    | false => rfl
    | true =>
      simp only [isBlank, Bool.or_eq_true, decide_eq_true_eq] at blank
      rcases blank with ((rfl | rfl) | rfl) | rfl <;> cases h
  · rintro rfl
    cases h

theorem toDigits_head (n : Nat) : ∃ c cs, Nat.toDigits 10 n = c :: cs ∧ c.isDigit = true := by
  cases written : Nat.toDigits 10 n with
  | nil => exact absurd written Nat.toDigits_ne_nil
  | cons c cs => exact ⟨c, cs, rfl, isDigit_of_mem_toDigits (n := n) (by simp [written])⟩

theorem render_head {v : Json} (h : v.IntegersOnly) : ∃ c cs, v.render = c :: cs ∧ Opens c := by
  have fixed {c : Char} (blank : isBlank c = false) (bracket : c ≠ ']') (cs : List Char) :
      ∃ c' cs', c :: cs = c' :: cs' ∧ Opens c' := ⟨c, cs, rfl, blank, bracket⟩
  cases v with
  | null => exact fixed (by decide) (by decide) _
  | bool b => cases b <;> exact fixed (by decide) (by decide) _
  | int n =>
    rw [render, renderInt]
    split
    · exact fixed (by decide) (by decide) _
    · obtain ⟨c, cs, written, digit⟩ := toDigits_head n.natAbs
      exact ⟨c, cs, written, opens_digit digit⟩
  | float x => cases h
  | str s => exact fixed (by decide) (by decide) _
  | arr items => exact fixed (by decide) (by decide) _
  | obj members => exact fixed (by decide) (by decide) _

theorem skipBlanks_cons {c : Char} (h : isBlank c = false) (s : List Char) :
    skipBlanks (c :: s) = c :: s := by
  rw [skipBlanks, List.dropWhile_cons, h]
  rfl

/-! ## Values without containers -/

theorem readValue_digits {n : Nat} (fits : n < UInt64.size) (depth : Nat) {rest : List Char}
    (stops : Stops rest) :
    readValue (depth + 1) (Nat.toDigits 10 n ++ rest) = .ok (.int n, rest) := by
  obtain ⟨c, cs, written, digit⟩ := toDigits_head n
  have number := readNumber_toDigits fits stops false
  have other (d : Char) (h : d.isDigit = false) : c ≠ d := by
    rintro rfl
    rw [h] at digit
    cases digit
  rw [written, List.cons_append] at number ⊢
  rw [readValue, skipBlanks_cons (opens_digit digit).blank]
  simp only [if_neg (other 'n' rfl), if_neg (other 't' rfl), if_neg (other 'f' rfl),
    if_neg (other '"' rfl), if_neg (other '-' rfl), if_pos digit]
  exact number

theorem readValue_int {n : Int} (range : InRange n) (depth : Nat) {rest : List Char}
    (stops : Stops rest) :
    readValue (depth + 1) (renderInt n ++ rest) = .ok (.int n, rest) := by
  have least : -9223372036854775808 ≤ n := range.1
  have most : n ≤ 18446744073709551615 := range.2
  unfold renderInt
  split
  · next negative =>
    have fits : n.natAbs < UInt64.size := by unfold UInt64.size; omega
    have whole : ofWhole true n.natAbs = .int n := by
      rw [ofWhole_true (by omega) (by unfold minInteger; omega)]
      congr 1
      omega
    have number := readNumber_toDigits fits stops true
    rw [whole] at number
    rw [List.cons_append, readValue, skipBlanks_cons (by decide)]
    exact number
  · have fits : n.natAbs < UInt64.size := by unfold UInt64.size; omega
    rw [readValue_digits fits depth stops]
    congr 3
    omega

theorem readValue_str (s : String) (depth : Nat) (rest : List Char) :
    readValue (depth + 1) (renderString s ++ rest) = .ok (.str s, rest) := by
  have text : renderString s ++ rest = '"' :: (s.toList.flatMap escape ++ '"' :: rest) := by
    simp [renderString]
  rw [text, readValue, skipBlanks_cons (by decide)]
  simp [readString_escape]

/-! ## Containers -/

/-- A reader before the text of the value gives the value, if it is not too deep. -/
def Reads (v : Json) : Prop :=
  ∀ (depth : Nat) (rest : List Char), Stops rest →
    readValue (depth + 1) (v.render ++ rest) = Within v.depth depth v rest

theorem stops_comma (rest : List Char) : Stops (',' :: rest) := stops_cons rest (by decide)

theorem stops_bracket (rest : List Char) : Stops (']' :: rest) := stops_cons rest (by decide)

theorem stops_brace (rest : List Char) : Stops ('}' :: rest) := stops_cons rest (by decide)

/-- The items of an array after the first, each behind its comma. -/
def renderRest (items : List Json) : List Char := items.flatMap fun v => ',' :: v.render

theorem renderItems_cons (v : Json) (items : List Json) :
    renderItems (v :: items) = v.render ++ renderRest items := by
  induction items generalizing v with
  | nil => simp [renderItems, renderRest]
  | cons w items ih => rw [renderItems, ih]; simp [renderRest]

theorem stops_renderRest (items : List Json) (rest : List Char) :
    Stops (renderRest items ++ ']' :: rest) := by
  cases items with
  | nil => exact stops_bracket rest
  | cons v items => exact stops_comma _

theorem length_le_renderRest (items : List Json) : items.length ≤ (renderRest items).length := by
  induction items with
  | nil => exact Nat.zero_le _
  | cons v items ih =>
    simp only [renderRest, List.flatMap_cons, List.length_append, List.length_cons] at ih ⊢
    omega

theorem readMoreItems_render {items : List Json}
    (h : ∀ v ∈ items, v.IntegersOnly ∧ v.Reads) (depth fuel : Nat) (enough : items.length < fuel)
    (rest : List Char) :
    readMoreItems (readValue (depth + 1)) fuel (renderRest items ++ ']' :: rest) =
      Within (depthItems items) depth items rest := by
  induction items generalizing fuel with
  | nil =>
    obtain ⟨fuel, rfl⟩ : ∃ k, fuel = k + 1 := ⟨fuel - 1, by omega⟩
    rw [depthItems, within_zero]
    simp [renderRest, readMoreItems, skipBlanks_cons (c := ']') (by decide)]
  | cons v items ih =>
    obtain ⟨fuel, rfl⟩ : ∃ k, fuel = k + 1 := ⟨fuel - 1, by omega⟩
    obtain ⟨integers, reads⟩ := h v List.mem_cons_self
    obtain ⟨c, cs, written, opens⟩ := render_head integers
    have more := ih (fun w mem => h w (List.mem_cons_of_mem v mem)) fuel (by simpa using enough)
    have first := reads depth _ (stops_renderRest items rest)
    have text : renderRest (v :: items) ++ ']' :: rest =
        ',' :: (v.render ++ (renderRest items ++ ']' :: rest)) := by simp [renderRest]
    rw [text, readMoreItems, skipBlanks_cons (by decide)]
    rw [written, List.cons_append] at first ⊢
    simp only [Char.reduceEq, ↓reduceIte, skipBlanks_cons opens.blank, if_neg opens.bracket, first]
    rw [depthItems]
    apply within_andThen
    rw [more, map_within]

theorem readItems_render {items : List Json} (h : ∀ v ∈ items, v.IntegersOnly ∧ v.Reads)
    (depth : Nat) (rest : List Char) :
    readItems (readValue (depth + 1)) (renderItems items ++ ']' :: rest) =
      Within (depthItems items) depth items rest := by
  cases items with
  | nil =>
    rw [depthItems, within_zero]
    simp [renderItems, readItems, skipBlanks_cons (c := ']') (by decide)]
  | cons v items =>
    obtain ⟨integers, reads⟩ := h v List.mem_cons_self
    obtain ⟨c, cs, written, opens⟩ := render_head integers
    have enough : items.length < (renderRest items ++ ']' :: rest).length + 1 := by
      have := length_le_renderRest items
      simp only [List.length_append]
      omega
    have more := readMoreItems_render (fun w mem => h w (List.mem_cons_of_mem v mem)) depth _
      enough rest
    have first := reads depth _ (stops_renderRest items rest)
    rw [renderItems_cons, List.append_assoc]
    rw [written, List.cons_append] at first ⊢
    rw [readItems, skipBlanks_cons opens.blank]
    simp only [if_neg opens.bracket, first]
    rw [depthItems]
    apply within_andThen
    rw [more, map_within]

/-- The members of an object after the first, each behind its comma. -/
def renderRestMembers (members : List (String × Json)) : List Char :=
  members.flatMap fun (k, v) => ',' :: renderString k ++ ':' :: v.render

theorem renderMembers_cons (k : String) (v : Json) (members : List (String × Json)) :
    renderMembers ((k, v) :: members) =
      renderString k ++ ':' :: v.render ++ renderRestMembers members := by
  induction members generalizing k v with
  | nil => simp [renderMembers, renderRestMembers]
  | cons m members ih =>
    obtain ⟨k', v'⟩ := m
    rw [renderMembers, ih]
    simp [renderRestMembers]

theorem stops_renderRestMembers (members : List (String × Json)) (rest : List Char) :
    Stops (renderRestMembers members ++ '}' :: rest) := by
  cases members with
  | nil => exact stops_brace rest
  | cons m members => exact stops_comma _

theorem length_le_renderRestMembers (members : List (String × Json)) :
    members.length ≤ (renderRestMembers members).length := by
  induction members with
  | nil => exact Nat.zero_le _
  | cons m members ih =>
    simp only [renderRestMembers, List.flatMap_cons, List.length_append, List.length_cons] at ih ⊢
    omega

theorem readMember_render {k : String} {v : Json} (h : v.Reads) (depth : Nat) {rest : List Char}
    (stops : Stops rest) :
    readMember (readValue (depth + 1))
        (k.toList.flatMap escape ++ '"' :: ':' :: (v.render ++ rest)) =
      Within v.depth depth (k, v) rest := by
  rw [readMember, readString_escape, Reading.andThen_ok, skipBlanks_cons (by decide)]
  simp only [↓reduceIte, h depth rest stops, map_within, String.ofList_toList]

theorem readMoreMembers_render {members : List (String × Json)} (h : ∀ m ∈ members, m.2.Reads)
    (depth fuel : Nat) (enough : members.length < fuel) (rest : List Char) :
    readMoreMembers (readValue (depth + 1)) fuel (renderRestMembers members ++ '}' :: rest) =
      Within (depthMembers members) depth members rest := by
  induction members generalizing fuel with
  | nil =>
    obtain ⟨fuel, rfl⟩ : ∃ k, fuel = k + 1 := ⟨fuel - 1, by omega⟩
    rw [depthMembers, within_zero]
    simp [renderRestMembers, readMoreMembers, skipBlanks_cons (c := '}') (by decide)]
  | cons m members ih =>
    obtain ⟨k, v⟩ := m
    obtain ⟨fuel, rfl⟩ : ∃ k, fuel = k + 1 := ⟨fuel - 1, by omega⟩
    have more := ih (fun w mem => h w (List.mem_cons_of_mem _ mem)) fuel (by simpa using enough)
    have first := readMember_render (k := k) (h _ List.mem_cons_self) depth
      (stops_renderRestMembers members rest)
    have text : renderRestMembers ((k, v) :: members) ++ '}' :: rest =
        ',' :: '"' :: (k.toList.flatMap escape ++
          '"' :: ':' :: (v.render ++ (renderRestMembers members ++ '}' :: rest))) := by
      simp [renderRestMembers, renderString]
    rw [text, readMoreMembers, skipBlanks_cons (by decide)]
    simp only [Char.reduceEq, ↓reduceIte, skipBlanks_cons (c := '"') (by decide), first]
    rw [depthMembers]
    apply within_andThen
    rw [more, map_within]

theorem readMembers_render {members : List (String × Json)} (h : ∀ m ∈ members, m.2.Reads)
    (depth : Nat) (rest : List Char) :
    readMembers (readValue (depth + 1)) (renderMembers members ++ '}' :: rest) =
      Within (depthMembers members) depth members rest := by
  cases members with
  | nil =>
    rw [depthMembers, within_zero]
    simp [renderMembers, readMembers, skipBlanks_cons (c := '}') (by decide)]
  | cons m members =>
    obtain ⟨k, v⟩ := m
    have enough : members.length < (renderRestMembers members ++ '}' :: rest).length + 1 := by
      have := length_le_renderRestMembers members
      simp only [List.length_append]
      omega
    have more := readMoreMembers_render (fun w mem => h w (List.mem_cons_of_mem _ mem)) depth _
      enough rest
    have first := readMember_render (k := k) (h _ List.mem_cons_self) depth
      (stops_renderRestMembers members rest)
    have text : renderMembers ((k, v) :: members) ++ '}' :: rest =
        '"' :: (k.toList.flatMap escape ++
          '"' :: ':' :: (v.render ++ (renderRestMembers members ++ '}' :: rest))) := by
      simp [renderMembers_cons, renderString]
    rw [text, readMembers, skipBlanks_cons (by decide)]
    simp only [Char.reduceEq, ↓reduceIte, first]
    rw [depthMembers]
    apply within_andThen
    rw [more, map_within]

/-! ## Any value -/

/-- A container pays one level for itself before its contents are read. -/
theorem map_contents {α : Type} (build : α → Json) (nests depth : Nat) (contents : α)
    (rest : List Char) (read : Nat → Reading α)
    (h : ∀ d, read (d + 1) = Within nests d contents rest) :
    (if depth = 0 then .error .tooDeep else Reading.map build (read depth)) =
      Within (nests + 1) depth (build contents) rest := by
  cases depth with
  | zero => simp [Within]
  | succ depth =>
    rw [if_neg (Nat.succ_ne_zero depth), h, map_within]
    simp [Within]

theorem reads_arr {items : List Json} (h : ∀ v ∈ items, v.IntegersOnly ∧ v.Reads) :
    (arr items).Reads := by
  intro depth rest stops
  have text : (arr items).render ++ rest = '[' :: (renderItems items ++ ']' :: rest) := by
    simp [render]
  rw [text, readValue, skipBlanks_cons (by decide), Json.depth]
  simp only [Char.reduceEq, ↓reduceIte, Char.reduceIsDigit, Bool.false_eq_true]
  exact map_contents arr _ depth items rest
    (fun d => readItems (readValue d) (renderItems items ++ ']' :: rest))
    fun d => readItems_render h d rest

theorem reads_obj {members : List (String × Json)} (sorted : KeyMap.Sorted members)
    (h : ∀ m ∈ members, m.2.Reads) : (obj members).Reads := by
  intro depth rest stops
  have text : (obj members).render ++ rest = '{' :: (renderMembers members ++ '}' :: rest) := by
    simp [render]
  have whole : object members = obj members := by rw [object, KeyMap.ofList_eq_self sorted]
  rw [text, readValue, skipBlanks_cons (by decide), Json.depth, ← whole]
  simp only [Char.reduceEq, ↓reduceIte, Char.reduceIsDigit, Bool.false_eq_true]
  exact map_contents object _ depth members rest
    (fun d => readMembers (readValue d) (renderMembers members ++ '}' :: rest))
    fun d => readMembers_render h d rest

theorem reads_of_depth_eq_zero {v : Json} (flat : v.depth = 0)
    (h : ∀ (depth : Nat) (rest : List Char), Stops rest →
      readValue (depth + 1) (v.render ++ rest) = .ok (v, rest)) : v.Reads := by
  intro depth rest stops
  rw [flat, within_zero]
  exact h depth rest stops

theorem readValue_null (depth : Nat) (rest : List Char) :
    readValue (depth + 1) (null.render ++ rest) = .ok (null, rest) := by
  simp [render, readValue, skipBlanks_cons (c := 'n') (by decide), readWord]

theorem readValue_bool (b : Bool) (depth : Nat) (rest : List Char) :
    readValue (depth + 1) ((bool b).render ++ rest) = .ok (bool b, rest) := by
  cases b with
  | false => simp [render, readValue, skipBlanks_cons (c := 'f') (by decide), readWord]
  | true => simp [render, readValue, skipBlanks_cons (c := 't') (by decide), readWord]

mutual

theorem reads_of_integersOnly : (v : Json) → v.IntegersOnly → v.Reads
  | null, _ => reads_of_depth_eq_zero rfl fun depth rest _ => readValue_null depth rest
  | bool b, _ => reads_of_depth_eq_zero rfl fun depth rest _ => readValue_bool b depth rest
  | int _, range => reads_of_depth_eq_zero rfl fun depth _ stops => readValue_int range depth stops
  | str s, _ => reads_of_depth_eq_zero rfl fun depth rest _ => readValue_str s depth rest
  | arr items, integers => reads_arr (reads_of_integersOnlyItems items integers)
  | obj members, integers =>
    reads_obj integers.1 (reads_of_integersOnlyMembers members integers.2)

theorem reads_of_integersOnlyItems :
    (items : List Json) → integersOnlyItems items → ∀ v ∈ items, v.IntegersOnly ∧ v.Reads
  | [], _ => by simp
  | v :: items, integers => by
    have first := reads_of_integersOnly v integers.1
    have more := reads_of_integersOnlyItems items integers.2
    exact List.forall_mem_cons.2 ⟨⟨integers.1, first⟩, more⟩

theorem reads_of_integersOnlyMembers :
    (members : List (String × Json)) → integersOnlyMembers members → ∀ m ∈ members, m.2.Reads
  | [], _ => by simp
  | (k, v) :: members, integers => by
    have first := reads_of_integersOnly v integers.1
    have more := reads_of_integersOnlyMembers members integers.2
    exact List.forall_mem_cons.2 ⟨first, more⟩

end

/-- The text of a value is that value again, unless it nests more containers than a reader enters. -/
theorem parse_render {v : Json} (h : v.IntegersOnly) :
    parse v.render = if v.depth ≤ 127 then .ok v else .error .tooDeep := by
  have read := reads_of_integersOnly v h 127 [] stops_nil
  rw [List.append_nil] at read
  rw [parse, depthLimit, read, Within]
  by_cases fits : v.depth ≤ 127
  · rw [if_pos fits, if_pos fits]
    rfl
  · rw [if_neg fits, if_neg fits]

end Json

end Switchboard
