/-!
# Finite maps with string keys

A `KeyMap` is a list of key-value pairs kept in strictly increasing key order, so that two maps
with the same bindings are the same list. Keys compare by code point, which is also the order of
their UTF-8 bytes. `insert` is the only way in: it keeps the order (`sorted_insert`), and
`find?_insert_self` and `find?_insert_of_ne` say what it does to a lookup.
-/

namespace Switchboard

/-- Pairs in strictly increasing key order. -/
abbrev KeyMap (α : Type) := List (String × α)

namespace KeyMap

variable {α : Type}

def find? (key : String) : KeyMap α → Option α
  | [] => none
  | (k, v) :: rest => if k = key then some v else find? key rest

/-- Bind `key` to `value`, replacing an earlier binding. -/
def insert (key : String) (value : α) : KeyMap α → KeyMap α
  | [] => [(key, value)]
  | (k, v) :: rest =>
    if key < k then (key, value) :: (k, v) :: rest
    else if k = key then (key, value) :: rest
    else (k, v) :: insert key value rest

def erase (key : String) (m : KeyMap α) : KeyMap α :=
  m.filter fun entry => entry.1 != key

def contains (key : String) (m : KeyMap α) : Bool := (find? key m).isSome

/-- Bind every pair in turn, so that of two pairs with one key the later holds. -/
def ofList (pairs : List (String × α)) : KeyMap α :=
  pairs.foldl (fun m pair => insert pair.1 pair.2 m) []

def keys (m : KeyMap α) : List String := m.map Prod.fst

/-- The order every map is kept in. -/
def Sorted (m : KeyMap α) : Prop := m.Pairwise fun a b => a.1 < b.1

@[simp] theorem find?_nil (key : String) : find? key ([] : KeyMap α) = none := rfl

@[simp] theorem find?_insert_self (key : String) (value : α) (m : KeyMap α) :
    find? key (insert key value m) = some value := by
  induction m with
  | nil => simp [insert, find?]
  | cons entry rest ih =>
    obtain ⟨k, v⟩ := entry
    simp only [insert]
    split
    · simp [find?]
    split
    · simp [find?]
    · rename_i h; simp [find?, h, ih]

theorem find?_insert_of_ne {key other : String} (h : other ≠ key) (value : α) (m : KeyMap α) :
    find? other (insert key value m) = find? other m := by
  induction m with
  | nil => simp [insert, find?, Ne.symm h]
  | cons entry rest ih =>
    obtain ⟨k, v⟩ := entry
    simp only [insert]
    split
    · simp [find?, Ne.symm h]
    split
    · rename_i hk; subst hk; simp [find?, Ne.symm h]
    · simp only [find?]; split <;> simp_all

private theorem lt_of_not_lt_of_ne {a b : String} (h : ¬ b < a) (ne : a ≠ b) : a < b := by
  rcases Decidable.em (a < b) with hab | hab
  · exact hab
  · exact absurd (String.le_antisymm (String.not_lt.1 h) (String.not_lt.1 hab)) ne

/-- An insertion brings in nothing but its own binding. -/
theorem eq_or_mem_of_mem_insert {key : String} {value : α} {m : KeyMap α} {entry : String × α}
    (h : entry ∈ insert key value m) : entry = (key, value) ∨ entry ∈ m := by
  induction m with
  | nil => simpa [insert] using h
  | cons head rest ih =>
    obtain ⟨k, v⟩ := head
    simp only [insert] at h
    split at h
    · simpa using h
    split at h
    · grind
    · grind

theorem sorted_insert (key : String) (value : α) {m : KeyMap α} (h : Sorted m) :
    Sorted (insert key value m) := by
  induction m with
  | nil => simp [insert, Sorted]
  | cons head rest ih =>
    obtain ⟨k, v⟩ := head
    obtain ⟨before, sorted⟩ := List.pairwise_cons.1 h
    simp only [insert]
    split
    case isTrue lt =>
      refine List.pairwise_cons.2 ⟨fun entry mem => ?_, h⟩
      rcases List.mem_cons.1 mem with rfl | mem
      · exact lt
      · exact String.lt_trans lt (before entry mem)
    case isFalse ge =>
      split
      case isTrue eq => exact List.pairwise_cons.2 ⟨fun entry mem => eq ▸ before entry mem, sorted⟩
      case isFalse ne =>
        refine List.pairwise_cons.2 ⟨fun entry mem => ?_, ih sorted⟩
        rcases eq_or_mem_of_mem_insert mem with rfl | mem
        · exact lt_of_not_lt_of_ne ge ne
        · exact before entry mem

/-- Whatever the order of the pairs, the map is in key order. -/
theorem sorted_ofList (pairs : List (String × α)) : Sorted (ofList pairs) := by
  unfold ofList
  suffices ∀ m : KeyMap α, Sorted m → Sorted (pairs.foldl (fun m pair => insert pair.1 pair.2 m) m)
    from this [] List.Pairwise.nil
  induction pairs with
  | nil => exact fun m h => h
  | cons pair rest ih => exact fun m h => ih _ (sorted_insert _ _ h)

end KeyMap

end Switchboard
