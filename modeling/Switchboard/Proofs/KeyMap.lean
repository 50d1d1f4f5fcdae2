import Switchboard.KeyMap
import Mathlib.Data.List.Perm.Basic
/-!
# Lookups, erasures and keys of finite maps

`insert` and `find?` meet in `Switchboard.KeyMap`. Here are `erase`, the list of keys, and the two
facts that need the key order: a map binds each key once (`nodup_keys`), and binding a key to the
value it has changes nothing (`insert_eq_self`). As lists of keys, an insertion of a new key is one
more and an erasure is one less, up to order (`keys_insert_perm`, `keys_perm_cons_erase`).
-/

namespace Switchboard

namespace KeyMap

variable {α : Type} {key other : String} {value : α} {m : KeyMap α}

theorem find?_eq_none_iff : find? key m = none ↔ key ∉ keys m := by
  induction m with
  | nil => simp [find?, keys]
  | cons entry rest ih =>
    obtain ⟨k, v⟩ := entry
    by_cases hk : k = key
    · simp [find?, keys, hk]
    · have hk' : key ≠ k := Ne.symm hk
      simp only [find?, hk, ↓reduceIte, keys, List.map_cons, List.mem_cons, hk', false_or]
      exact ih

theorem mem_keys_iff : key ∈ keys m ↔ ∃ value, find? key m = some value := by
  rw [← Option.ne_none_iff_exists', ne_eq, find?_eq_none_iff, not_not]

theorem mem_keys_of_find? (h : find? key m = some value) : key ∈ keys m :=
  mem_keys_iff.mpr ⟨value, h⟩

theorem find?_append (key : String) (m n : KeyMap α) :
    find? key (m ++ n) = (find? key m).or (find? key n) := by
  induction m with
  | nil => rfl
  | cons entry rest ih =>
    obtain ⟨k, v⟩ := entry
    by_cases hk : k = key <;> simp [find?, hk, ih]

/-- Values may be changed in place. -/
theorem find?_map {β : Type} (f : α → β) (key : String) (m : KeyMap α) :
    find? key (m.map fun entry => (entry.1, f entry.2)) = (find? key m).map f := by
  induction m with
  | nil => rfl
  | cons entry rest ih =>
    obtain ⟨k, v⟩ := entry
    by_cases hk : k = key <;> simp [find?, hk, ih]

theorem contains_iff : contains key m = true ↔ key ∈ keys m := by
  rw [contains, Option.isSome_iff_exists, mem_keys_iff]

theorem mem_of_find? (h : find? key m = some value) : (key, value) ∈ m := by
  induction m with
  | nil => cases h
  | cons entry rest ih =>
    obtain ⟨k, v⟩ := entry
    simp only [find?] at h
    split at h
    · next hk =>
      cases h
      subst hk
      exact List.mem_cons_self
    · exact List.mem_cons_of_mem _ (ih h)

/-! ## Erasures -/

theorem keys_erase (key : String) (m : KeyMap α) :
    keys (erase key m) = (keys m).filter (· != key) := by
  unfold keys erase
  rw [List.filter_map]
  rfl

@[simp] theorem find?_erase_self (key : String) (m : KeyMap α) :
    find? key (erase key m) = none := by
  rw [find?_eq_none_iff, keys_erase]
  simp

theorem find?_erase_of_ne (h : other ≠ key) (m : KeyMap α) :
    find? other (erase key m) = find? other m := by
  induction m with
  | nil => rfl
  | cons entry rest ih =>
    obtain ⟨k, v⟩ := entry
    unfold erase at ih ⊢
    by_cases hk : k = key
    · subst hk
      simp only [List.filter_cons, bne_self_eq_false, Bool.false_eq_true, ↓reduceIte, find?]
      rw [ih, if_neg (Ne.symm h)]
    · have hk' : (k != key) = true := by simpa using hk
      simp only [List.filter_cons, hk', ↓reduceIte, find?]
      rw [ih]

theorem sorted_erase (key : String) (h : Sorted m) : Sorted (erase key m) :=
  List.Pairwise.filter _ h

/-! ## Keys of ordered maps -/

theorem nodup_keys (h : Sorted m) : (keys m).Nodup := by
  unfold keys
  rw [List.Nodup, List.pairwise_map]
  exact h.imp fun lt eq => absurd (eq ▸ lt) (String.lt_irrefl _)

theorem find?_eq_some_iff (h : Sorted m) : find? key m = some value ↔ (key, value) ∈ m := by
  refine ⟨mem_of_find?, fun mem => ?_⟩
  induction m with
  | nil => cases mem
  | cons entry rest ih =>
    obtain ⟨k, v⟩ := entry
    obtain ⟨before, sorted⟩ := List.pairwise_cons.mp h
    rcases List.mem_cons.mp mem with eq | mem
    · cases eq
      simp [find?]
    · have lt : k < key := before _ mem
      have ne : k ≠ key := fun eq => absurd (eq ▸ lt) (String.lt_irrefl _)
      rw [find?, if_neg ne]
      exact ih sorted mem

/-- Two maps with the same lookups are the same list. -/
theorem ext_find? {m n : KeyMap α} (hm : Sorted m) (hn : Sorted n)
    (same : ∀ key, find? key m = find? key n) : m = n := by
  have distinct {m : KeyMap α} (h : Sorted m) : m.Nodup := by
    refine List.Pairwise.imp ?_ h
    rintro a _ lt rfl
    exact String.lt_irrefl _ lt
  have perm : m.Perm n := by
    rw [List.perm_ext_iff_of_nodup (distinct hm) (distinct hn)]
    rintro ⟨key, value⟩
    rw [← find?_eq_some_iff hm, same, find?_eq_some_iff hn]
  exact perm.eq_of_pairwise (fun a b _ _ lt gt =>
    absurd (String.lt_trans lt gt) (String.lt_irrefl _)) hm hn

/-- Binding a key to the value it has changes nothing. -/
theorem insert_eq_self (h : Sorted m) (found : find? key m = some value) :
    insert key value m = m := by
  induction m with
  | nil => cases found
  | cons entry rest ih =>
    obtain ⟨k, v⟩ := entry
    obtain ⟨before, sorted⟩ := List.pairwise_cons.mp h
    simp only [find?] at found
    split at found
    · next hk =>
      cases found
      subst hk
      rw [insert, if_neg (String.lt_irrefl k), if_pos rfl]
    · next hk =>
      have lt : k < key := before _ (mem_of_find? found)
      have notLt : ¬ key < k := fun gt => String.lt_irrefl k (String.lt_trans lt gt)
      rw [insert, if_neg notLt, if_neg hk, ih sorted found]

/-- A key beyond all others goes to the end. -/
theorem insert_eq_append {m : KeyMap α} {key : String} (beyond : ∀ entry ∈ m, entry.1 < key)
    (value : α) : insert key value m = m ++ [(key, value)] := by
  induction m with
  | nil => rfl
  | cons entry rest ih =>
    obtain ⟨k, v⟩ := entry
    have lt : k < key := beyond _ List.mem_cons_self
    have notLt : ¬ key < k := fun gt => String.lt_irrefl k (String.lt_trans lt gt)
    have ne : k ≠ key := fun eq => String.lt_irrefl key (eq ▸ lt)
    rw [insert, if_neg notLt, if_neg ne, ih fun entry mem => beyond entry (List.mem_cons_of_mem _ mem)]
    rfl

/-- A map holds nothing but the pairs that it was made of. -/
theorem mem_of_mem_ofList {pairs : List (String × α)} {entry : String × α}
    (h : entry ∈ ofList pairs) : entry ∈ pairs := by
  suffices ∀ m : KeyMap α, entry ∈ pairs.foldl (fun m pair => insert pair.1 pair.2 m) m →
      entry ∈ m ∨ entry ∈ pairs from (this [] h).resolve_left List.not_mem_nil
  clear h
  induction pairs with
  | nil => exact fun m mem => .inl mem
  | cons pair pairs ih =>
    intro m mem
    rcases ih _ mem with put | later
    · rcases eq_or_mem_of_mem_insert put with rfl | earlier
      · exact .inr List.mem_cons_self
      · exact .inl earlier
    · exact .inr (List.mem_cons_of_mem pair later)

/-- Of several pairs with one key the last one counts. -/
theorem find?_ofList (key : String) (pairs : List (String × α)) :
    find? key (ofList pairs) = find? key pairs.reverse := by
  suffices ∀ m : KeyMap α, find? key (pairs.foldl (fun m pair => insert pair.1 pair.2 m) m) =
      (find? key pairs.reverse).or (find? key m) from (this []).trans Option.or_none
  induction pairs with
  | nil => exact fun m => rfl
  | cons pair pairs ih =>
    intro m
    rw [List.foldl_cons, ih, List.reverse_cons, find?_append, Option.or_assoc]
    congr 1
    obtain ⟨k, v⟩ := pair
    by_cases hk : k = key
    · subst hk
      simp [find?]
    · simp [find?, hk, find?_insert_of_ne (Ne.symm hk)]

/-- Members in key order are a map already. -/
theorem ofList_eq_self {m : KeyMap α} (h : Sorted m) : ofList m = m := by
  suffices ∀ before : KeyMap α, Sorted (before ++ m) →
      m.foldl (fun m entry => insert entry.1 entry.2 m) before = before ++ m from this [] h
  clear h
  induction m with
  | nil => exact fun before _ => (List.append_nil before).symm
  | cons entry rest ih =>
    intro before sorted
    have beyond : ∀ other ∈ before, other.1 < entry.1 := fun other mem =>
      (List.pairwise_append.mp sorted).2.2 other mem entry List.mem_cons_self
    have step : before ++ entry :: rest = before ++ [entry] ++ rest := by simp
    rw [step] at sorted ⊢
    rw [List.foldl_cons, insert_eq_append beyond]
    exact ih _ sorted

theorem keys_insert_perm (value : α) (fresh : key ∉ keys m) :
    (keys (insert key value m)).Perm (key :: keys m) := by
  induction m with
  | nil => exact .refl _
  | cons entry rest ih =>
    obtain ⟨k, v⟩ := entry
    simp only [keys, List.map_cons, List.mem_cons, not_or] at fresh
    rw [insert]
    split
    · exact .refl _
    · rw [if_neg (Ne.symm fresh.1)]
      exact ((ih fresh.2).cons k).trans (.swap key k _)

theorem keys_perm_cons_erase (h : Sorted m) (mem : key ∈ keys m) :
    (keys m).Perm (key :: keys (erase key m)) := by
  rw [keys_erase, ← (nodup_keys h).erase_eq_filter]
  exact List.perm_cons_erase mem

end KeyMap

end Switchboard
