import Switchboard.KeyMap
import Switchboard.Decimal.Binary64
/-!
# JSON values

Integers of the signed and unsigned 64-bit ranges stay integers; every other number is a double.
The members of an object are a `KeyMap`, so an object has one form whatever order its members
were written in. `IntegersOnly` states both rules for a value without doubles.
-/

namespace Switchboard

/-- A JSON value. -/
inductive Json where
  | null
  | bool (value : Bool)
  | int (value : Int)
  | float (value : Binary64)
  | str (value : String)
  | arr (items : List Json)
  | obj (members : List (String × Json))
  deriving Repr, Inhabited

/-- The members of an object. -/
abbrev Header := KeyMap Json

namespace Json

/-- The least integer of a signed 64-bit word. -/
def minInteger : Int := -0x8000000000000000

/-- The greatest integer of an unsigned 64-bit word. -/
def maxInteger : Int := 0xFFFFFFFFFFFFFFFF

/-- The integers that keep their exact value: those of a signed or an unsigned 64-bit word. -/
def InRange (n : Int) : Prop := minInteger ≤ n ∧ n ≤ maxInteger

instance (n : Int) : Decidable (InRange n) := by unfold InRange; infer_instance

/-- What a value is, in one word. -/
def kind : Json → String
  | null => "null"
  | bool _ => "boolean"
  | int _ | float _ => "number"
  | str _ => "string"
  | arr _ => "array"
  | obj _ => "object"

/-- The text of a string value. -/
def string? : Json → Option String
  | str s => some s
  | _ => none

/-- An object of the given members, the last of several with one key. -/
def object (members : List (String × Json)) : Json := obj (KeyMap.ofList members)

mutual

/-- How many containers a value nests, itself included. -/
def depth : Json → Nat
  | arr items => depthItems items + 1
  | obj members => depthMembers members + 1
  | _ => 0

def depthItems : List Json → Nat
  | [] => 0
  | v :: rest => max v.depth (depthItems rest)

def depthMembers : List (String × Json) → Nat
  | [] => 0
  | (_, v) :: rest => max v.depth (depthMembers rest)

end

mutual

/-- Every object is in key order and every number is an integer of the 64-bit ranges. -/
def IntegersOnly : Json → Prop
  | int n => InRange n
  | float _ => False
  | arr items => integersOnlyItems items
  | obj members => KeyMap.Sorted members ∧ integersOnlyMembers members
  | _ => True

def integersOnlyItems : List Json → Prop
  | [] => True
  | v :: rest => v.IntegersOnly ∧ integersOnlyItems rest

def integersOnlyMembers : List (String × Json) → Prop
  | [] => True
  | (_, v) :: rest => v.IntegersOnly ∧ integersOnlyMembers rest

end

end Json

end Switchboard
