import Switchboard.Json.Printer
import Switchboard.Text.Quoted
/-!
# Reading typed data out of JSON values

A `Decoder` turns a value into a typed one or names the first `Mismatch`. Members of an object are
looked at in key order and members without a field are ignored; a field that is absent is reported
only when every member that is present fits. Integers are never taken from doubles.
-/

namespace Switchboard

namespace Json

/-- Why a value does not have the shape that was asked for. -/
inductive Mismatch where
  /-- A field without a default is absent. -/
  | missingField (name : String)
  /-- The value is of another kind. -/
  | wrongType (found : Json) (expected : String)
  /-- The kind is right and the value is not. -/
  | wrongValue (found : String) (expected : String)
  | unknownVariant (name : String) (variants : List String)
  /-- An array stands for a structure and has too many items. -/
  | tooLong (length : Nat)
  /-- An array stands for a structure and has too few items. -/
  | tooShort (length : Nat) (expected : String)

/-- What kind of value was found, with the value itself if it is short. -/
def describe : Json → String
  | null => "null"
  | bool b => s!"boolean `{b}`"
  | int n => s!"integer `{n}`"
  | float x => s!"floating point `{String.ofList (renderFloat x)}`"
  | str s => "string " ++ quoted s
  | arr _ => "sequence"
  | obj _ => "map"

/-- A list of names to choose from. -/
def choice : List String → String
  | [a] => s!"`{a}`"
  | [a, b] => s!"`{a}` or `{b}`"
  | names => "one of " ++ String.intercalate ", " (names.map fun name => s!"`{name}`")

/-- The wording of a mismatch. -/
def Mismatch.message : Mismatch → String
  | missingField name => s!"missing field `{name}`"
  | wrongType found expected => s!"invalid type: {describe found}, expected {expected}"
  | wrongValue found expected => s!"invalid value: {found}, expected {expected}"
  | unknownVariant name variants => s!"unknown variant `{name}`, expected {choice variants}"
  | tooLong length => s!"invalid length {length}, expected fewer elements in array"
  | tooShort length expected => s!"invalid length {length}, expected {expected}"

/-- Reads a typed value. -/
abbrev Decoder (α : Type) := Json → Except Mismatch α

namespace Decoder

variable {α : Type}

def string : Decoder String
  | str s => .ok s
  | v => .error (.wrongType v "a string")

/-- An unsigned integer below a bound, which a name stands for in messages. -/
def unsigned (bound : Nat) (name : String) : Decoder Nat
  | int n =>
    if 0 ≤ n ∧ n < bound then .ok n.toNat else .error (.wrongValue (describe (int n)) name)
  | v => .error (.wrongType v name)

def word16 : Decoder UInt16 := fun v => (unsigned UInt16.size "u16" v).map Nat.toUInt16

def word32 : Decoder UInt32 := fun v => (unsigned UInt32.size "u32" v).map Nat.toUInt32

def word64 : Decoder UInt64 := fun v => (unsigned UInt64.size "u64" v).map Nat.toUInt64

/-- A size in the memory of a 64-bit machine. -/
def size : Decoder UInt64 := fun v => (unsigned UInt64.size "usize" v).map Nat.toUInt64

def any : Decoder Json := .ok

/-- Null stands for the absence of a value. -/
def optional (item : Decoder α) : Decoder (Option α)
  | null => .ok none
  | v => (item v).map some

/-- An array of like values. -/
def listOf (item : Decoder α) : Decoder (List α)
  | arr items => items.mapM item
  | v => .error (.wrongType v "a sequence")

/-- One of several names, written as a string or as an object with that one name and null. -/
def variant (names : List String) (ofName : String → Option α) : Decoder α
  | str name => resolve name
  | obj [(name, v)] => do
    let a ← resolve name
    match v with
    | null => return a
    | v => throw (.wrongType v "unit")
  | obj _ => .error (.wrongValue "map" "map with a single key")
  | v => .error (.wrongType v "string or map")
where
  resolve (name : String) : Except Mismatch α :=
    match ofName name with
    | some a => .ok a
    | none => .error (.unknownVariant name names)

end Decoder

/-- Read the member `name`, if it is present. -/
def field? {α : Type} (members : Header) (name : String) (item : Decoder α) :
    Except Mismatch (Option α) :=
  match KeyMap.find? name members with
  | none => .ok none
  | some v => (item v).map some

/-- Insist on a field that `field?` looked for. -/
def require {α : Type} (name : String) : Option α → Except Mismatch α
  | some a => .ok a
  | none => .error (.missingField name)

/-- The item at a position, if the array reaches that far. -/
def item? {α : Type} (items : List Json) (index : Nat) (item : Decoder α) :
    Except Mismatch (Option α) :=
  match items[index]? with
  | none => .ok none
  | some v => (item v).map some

end Json

end Switchboard
