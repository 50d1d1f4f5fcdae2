import Switchboard.Proofs.Json.RoundTrip
import Switchboard.Proofs.Text.Size
/-!
# What a value weighs

The weight of a value is the size of its compact text, but that a double counts for nothing
(`weight`, `size_render`). A member adds no more than its own weight to an object, whether its key
is new or not, so an object weighs no more than the members that it was made of (`weight_object`).
-/

namespace Switchboard

namespace Json

/-! ## Properties of every part -/

mutual

/-- The property holds of a value and of all that it contains. -/
def Every (p : Json → Prop) : Json → Prop
  | arr items => p (arr items) ∧ everyItem p items
  | obj members => p (obj members) ∧ everyMember p members
  | v => p v

def everyItem (p : Json → Prop) : List Json → Prop
  | [] => True
  | v :: rest => v.Every p ∧ everyItem p rest

def everyMember (p : Json → Prop) : List (String × Json) → Prop
  | [] => True
  | (_, v) :: rest => v.Every p ∧ everyMember p rest

end

theorem everyItem_iff {p : Json → Prop} {items : List Json} :
    everyItem p items ↔ ∀ v ∈ items, v.Every p := by
  induction items with
  | nil => simp [everyItem]
  | cons v items ih => rw [everyItem, ih, List.forall_mem_cons]

theorem everyMember_iff {p : Json → Prop} {members : List (String × Json)} :
    everyMember p members ↔ ∀ m ∈ members, m.2.Every p := by
  induction members with
  | nil => simp [everyMember]
  | cons m members ih => rw [everyMember, ih, List.forall_mem_cons]

/-- The value is no double. -/
def NotFloat : Json → Prop
  | float _ => False
  | _ => True

/-- No number in the value is a double. -/
def FloatFree (v : Json) : Prop := v.Every NotFloat

/-- An integer is of the 64-bit ranges and an object in key order. -/
def Ordered : Json → Prop
  | int n => InRange n
  | obj members => KeyMap.Sorted members
  | _ => True

mutual

theorem integersOnly_of_every : (v : Json) → v.Every Ordered → v.FloatFree → v.IntegersOnly
  | null, _, _ => trivial
  | bool _, _, _ => trivial
  | int _, range, _ => range
  | float _, _, free => free
  | str _, _, _ => trivial
  | arr items, ordered, free => integersOnlyItems_of_every items ordered.2 free.2
  | obj members, ordered, free =>
    ⟨ordered.1, integersOnlyMembers_of_every members ordered.2 free.2⟩

theorem integersOnlyItems_of_every : (items : List Json) → everyItem Ordered items →
    everyItem NotFloat items → integersOnlyItems items
  | [], _, _ => trivial
  | v :: items, ordered, free =>
    ⟨integersOnly_of_every v ordered.1 free.1,
      integersOnlyItems_of_every items ordered.2 free.2⟩

theorem integersOnlyMembers_of_every : (members : List (String × Json)) →
    everyMember Ordered members → everyMember NotFloat members → integersOnlyMembers members
  | [], _, _ => trivial
  | (_, v) :: members, ordered, free =>
    ⟨integersOnly_of_every v ordered.1 free.1,
      integersOnlyMembers_of_every members ordered.2 free.2⟩

end

theorem depthItems_le_iff {items : List Json} {d : Nat} :
    depthItems items ≤ d ↔ ∀ v ∈ items, v.depth ≤ d := by
  induction items with
  | nil => simp [depthItems]
  | cons v items ih => rw [depthItems, Nat.max_le, ih, List.forall_mem_cons]

theorem depthMembers_le_iff {members : List (String × Json)} {d : Nat} :
    depthMembers members ≤ d ↔ ∀ m ∈ members, m.2.depth ≤ d := by
  induction members with
  | nil => simp [depthMembers]
  | cons m members ih => rw [depthMembers, Nat.max_le, ih, List.forall_mem_cons]

/-! ## Weights -/

mutual

/-- The size of the compact text of a value, but that a double counts for nothing. -/
def weight : Json → Nat
  | float _ => 0
  | arr items => 1 + max 1 (weightItems items)
  | obj members => 1 + max 1 (weightMembers members)
  | v => Utf8.size v.render

/-- The weight of items, each with the comma or the bracket behind it. -/
def weightItems : List Json → Nat
  | [] => 0
  | v :: rest => v.weight + 1 + weightItems rest

/-- The weight of members, each with the comma or the brace behind it. -/
def weightMembers : List (String × Json) → Nat
  | [] => 0
  | (k, v) :: rest => Utf8.size (renderString k) + 1 + v.weight + 1 + weightMembers rest

end

mutual

theorem size_render : (v : Json) → v.FloatFree → Utf8.size v.render = v.weight
  | null, _ => rfl
  | bool _, _ => rfl
  | int _, _ => rfl
  | float _, free => free.elim
  | str _, _ => rfl
  | arr items, free => by
    have contents := size_renderItems items free.2
    rw [render, weight, ← contents, Utf8.size_append, Utf8.size_cons]
    have bracket : '['.utf8Size = 1 := rfl
    have bracketToo : Utf8.size [']'] = 1 := rfl
    omega
  | obj members, free => by
    have contents := size_renderMembers members free.2
    rw [render, weight, ← contents, Utf8.size_append, Utf8.size_cons]
    have brace : '{'.utf8Size = 1 := rfl
    have braceToo : Utf8.size ['}'] = 1 := rfl
    omega

theorem size_renderItems : (items : List Json) → everyItem NotFloat items →
    Utf8.size (renderItems items) + 1 = max 1 (weightItems items)
  | [], _ => rfl
  | v :: items, free => by
    have first := size_render v free.1
    have more := size_renderRest items free.2
    rw [renderItems_cons, Utf8.size_append, first, more, weightItems]
    omega

theorem size_renderRest : (items : List Json) → everyItem NotFloat items →
    Utf8.size (renderRest items) = weightItems items
  | [], _ => rfl
  | v :: items, free => by
    have first := size_render v free.1
    have more := size_renderRest items free.2
    have text : renderRest (v :: items) = ',' :: v.render ++ renderRest items := rfl
    have comma : ','.utf8Size = 1 := rfl
    rw [text, Utf8.size_append, Utf8.size_cons, first, more, weightItems]
    omega

theorem size_renderMembers : (members : List (String × Json)) → everyMember NotFloat members →
    Utf8.size (renderMembers members) + 1 = max 1 (weightMembers members)
  | [], _ => rfl
  | (k, v) :: members, free => by
    have first := size_render v free.1
    have more := size_renderRestMembers members free.2
    have colon : ':'.utf8Size = 1 := rfl
    rw [renderMembers_cons, Utf8.size_append, Utf8.size_append, Utf8.size_cons, first, more,
      weightMembers]
    omega

theorem size_renderRestMembers : (members : List (String × Json)) →
    everyMember NotFloat members →
    Utf8.size (renderRestMembers members) = weightMembers members
  | [], _ => rfl
  | (k, v) :: members, free => by
    have first := size_render v free.1
    have more := size_renderRestMembers members free.2
    have text : renderRestMembers ((k, v) :: members) =
        ',' :: renderString k ++ ':' :: v.render ++ renderRestMembers members := rfl
    have comma : ','.utf8Size = 1 := rfl
    have colon : ':'.utf8Size = 1 := rfl
    rw [text, Utf8.size_append, Utf8.size_append, Utf8.size_cons, Utf8.size_cons, first, more,
      weightMembers]
    omega

end

/-! ## Objects -/

theorem weightMembers_insert_le (k : String) (v : Json) (members : KeyMap Json) :
    weightMembers (KeyMap.insert k v members) ≤ weightMembers ((k, v) :: members) := by
  induction members with
  | nil => exact Nat.le_refl _
  | cons m members ih =>
    obtain ⟨k', v'⟩ := m
    unfold KeyMap.insert
    split
    · exact Nat.le_refl _
    split
    · simp only [weightMembers]
      omega
    · simp only [weightMembers] at ih ⊢
      omega

theorem weightMembers_ofList_le (members : List (String × Json)) :
    weightMembers (KeyMap.ofList members) ≤ weightMembers members := by
  suffices ∀ m : KeyMap Json, weightMembers
      (members.foldl (fun m pair => KeyMap.insert pair.1 pair.2 m) m) ≤
        weightMembers m + weightMembers members from
    Nat.le_trans (this []) (Nat.le_of_eq (Nat.zero_add _))
  induction members with
  | nil => exact fun m => Nat.le_refl _
  | cons pair members ih =>
    intro m
    obtain ⟨k, v⟩ := pair
    have put := weightMembers_insert_le k v m
    have later := ih (KeyMap.insert k v m)
    rw [List.foldl_cons]
    simp only [weightMembers] at put ⊢
    omega

theorem weight_object (members : List (String × Json)) :
    (object members).weight ≤ 1 + max 1 (weightMembers members) := by
  have lighter := weightMembers_ofList_le members
  rw [object, weight]
  omega

end Json

end Switchboard
