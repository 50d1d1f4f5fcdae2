import Switchboard.Json.Value
import Switchboard.Decimal.Shortest
/-!
# Compact JSON text

`Json.render` writes a value without blanks, the members of an object in the order the value holds
them. Strings escape the quote, the backslash and the controls below U+0020 and nothing else. A
double is written with its shortest digits, laid out by `FloatLayout`.
-/

namespace Switchboard

/-- How a double is laid out. -/
structure FloatLayout where
  /-- The least decimal exponent written in positional notation. -/
  leastPositional : Int
  /-- The greatest one. -/
  greatestPositional : Int
  /-- The fraction that a whole number gets. -/
  wholeFraction : List Char
  /-- What introduces a positive exponent, and a negative one. -/
  positiveMark : List Char
  negativeMark : List Char

namespace Json

/-- Doubles are positional from 10⁻⁵ up to below 10¹⁶, with at least one fraction digit, and have a
signed exponent without padding otherwise. -/
def floatLayout : FloatLayout := ⟨-5, 15, ['.', '0'], ['e', '+'], ['e', '-']⟩

end Json

namespace FloatLayout

/-- Lay out the digits of a positive number. -/
def place (layout : FloatLayout) (d : DecimalDigits) : List Char :=
  let order := d.point - 1
  if layout.leastPositional ≤ order ∧ order ≤ layout.greatestPositional then
    if d.point ≤ 0 then
      ['0', '.'] ++ List.replicate (-d.point).toNat '0' ++ d.digits
    else
      let whole := d.digits.take d.point.toNat
      let fraction := d.digits.drop d.point.toNat
      let padding := List.replicate (d.point.toNat - whole.length) '0'
      whole ++ padding ++ if fraction.isEmpty then layout.wholeFraction else '.' :: fraction
  else
    let mantissa := match d.digits with
      | first :: second :: rest => first :: '.' :: second :: rest
      | digits => digits
    let mark := if 0 ≤ order then layout.positiveMark else layout.negativeMark
    mantissa ++ mark ++ Nat.toDigits 10 order.natAbs

def write (layout : FloatLayout) (x : Binary64) : List Char :=
  let sign := if x.isNegative then ['-'] else []
  if x.isZero then sign ++ '0' :: layout.wholeFraction
  else sign ++ layout.place (Binary64.ofParts false x.magnitudeBits).shortest

end FloatLayout

namespace Json

def renderInt (n : Int) : List Char :=
  if n < 0 then '-' :: Nat.toDigits 10 n.natAbs else Nat.toDigits 10 n.natAbs

/-- The text of a double. -/
def renderFloat (x : Binary64) : List Char := floatLayout.write x

/-- How one character of a string is written. -/
def escape (c : Char) : List Char :=
  if c = '"' then ['\\', '"']
  else if c = '\\' then ['\\', '\\']
  else if c = '\x08' then ['\\', 'b']
  else if c = '\x0c' then ['\\', 'f']
  else if c = '\n' then ['\\', 'n']
  else if c = '\r' then ['\\', 'r']
  else if c = '\t' then ['\\', 't']
  else if c.toNat < 0x20 then
    ['\\', 'u', '0', '0', Nat.digitChar (c.toNat / 16), Nat.digitChar (c.toNat % 16)]
  else [c]

/-- A string in quotes. -/
def renderString (s : String) : List Char := '"' :: s.toList.flatMap escape ++ ['"']

mutual

/-- The compact text of a value. -/
def render : Json → List Char
  | null => ['n', 'u', 'l', 'l']
  | bool true => ['t', 'r', 'u', 'e']
  | bool false => ['f', 'a', 'l', 's', 'e']
  | int n => renderInt n
  | float x => renderFloat x
  | str s => renderString s
  | arr items => '[' :: renderItems items ++ [']']
  | obj members => '{' :: renderMembers members ++ ['}']

/-- The items of an array, separated by commas. -/
def renderItems : List Json → List Char
  | [] => []
  | [v] => v.render
  | v :: w :: rest => v.render ++ ',' :: renderItems (w :: rest)

/-- The members of an object, separated by commas. -/
def renderMembers : List (String × Json) → List Char
  | [] => []
  | [(k, v)] => renderString k ++ ':' :: v.render
  | (k, v) :: w :: rest => renderString k ++ ':' :: v.render ++ ',' :: renderMembers (w :: rest)

end

/-- The compact text of a value as a string. -/
def text (v : Json) : String := String.ofList v.render

end Json

end Switchboard
