/-!
# Double-precision numbers

A `Binary64` is the 64-bit pattern of a double, and all arithmetic here is exact `Nat` and `Int`
arithmetic on it. `ofRatio` rounds a quotient to the nearest double, ties to the even significand.
`ofDecimal?` reads a decimal the quick way: the significand is rounded to a double and then
multiplied or divided by the double of a power of ten, each step rounded once.
-/

namespace Switchboard

/-- The bits of a double: sign, eleven bits of exponent, 52 bits of fraction. -/
structure Binary64 where
  bits : UInt64
  deriving DecidableEq, Repr

namespace Binary64

/-- The number of fraction patterns, and the bit that a normal number has before its fraction. -/
def hiddenBit : Nat := 0x10000000000000

def signBit : Nat := 0x8000000000000000

/-- The pattern of infinity, the first that is no finite number. -/
def infinityBits : Nat := 2047 * hiddenBit

def isNegative (x : Binary64) : Bool := signBit ≤ x.bits.toNat

def magnitudeBits (x : Binary64) : Nat := x.bits.toNat % signBit

def isZero (x : Binary64) : Bool := x.magnitudeBits = 0

def isInfinite (x : Binary64) : Bool := x.magnitudeBits = infinityBits

/-- The integer significand: a finite number is `significand * 2 ^ exponent` in magnitude. -/
def significand (x : Binary64) : Nat :=
  let fraction := x.magnitudeBits % hiddenBit
  if x.magnitudeBits < hiddenBit then fraction else hiddenBit + fraction

/-- The power of two that goes with `significand`. -/
def exponent (x : Binary64) : Int := max (x.magnitudeBits / hiddenBit : Nat) 1 - 1075

def ofParts (negative : Bool) (magnitude : Nat) : Binary64 :=
  ⟨(magnitude + if negative then signBit else 0).toUInt64⟩

def negate (x : Binary64) : Binary64 := ofParts (!x.isNegative) x.magnitudeBits

/-- The quotient to the nearest integer, a half going to the even one. -/
def roundDiv (num den : Nat) : Nat :=
  let quotient := num / den
  let rest := num % den
  if 2 * rest < den then quotient
  else if den < 2 * rest then quotient + 1
  else quotient + quotient % 2

/-- The largest `e` with `2 ^ e ≤ num / den`, for positive `num` and `den`. -/
def binaryOrder (num den : Nat) : Int :=
  let guess : Int := (num.log2 : Int) - den.log2
  if den <<< guess.toNat ≤ num <<< (-guess).toNat then guess else guess - 1

/-- The double nearest to `num / den`, ties to even, infinity beyond the range. -/
def ofRatio (negative : Bool) (num den : Nat) : Binary64 :=
  if num = 0 then ofParts negative 0
  else
    let unit : Int := max (binaryOrder num den - 52) (-1074)
    let significand := roundDiv (num <<< (-unit).toNat) (den <<< unit.toNat)
    ofParts negative (min ((unit + 1074).toNat * hiddenBit + significand) infinityBits)

def ofNat (n : Nat) : Binary64 := ofRatio false n 1

def mul (x y : Binary64) : Binary64 :=
  let e := x.exponent + y.exponent
  ofRatio (x.isNegative != y.isNegative)
    ((x.significand * y.significand) <<< e.toNat) (1 <<< (-e).toNat)

def div (x y : Binary64) : Binary64 :=
  let e := x.exponent - y.exponent
  ofRatio (x.isNegative != y.isNegative)
    (x.significand <<< e.toNat) (y.significand <<< (-e).toNat)

def pow10 (n : Nat) : Binary64 := ofNat (Nat.pow 10 n)

/-- Divide by `10 ^ 308` until the exponent that is left has a power of ten among the doubles.
Two steps take every 64-bit significand to zero, after which the exponent no longer matters. -/
def scaleDown : Nat → Binary64 → Int → Binary64
  | 0, x, _ => x
  | steps + 1, x, e =>
    if -308 ≤ e then div x (pow10 (-e).toNat)
    else if x.isZero then x
    else scaleDown steps (div x (pow10 308)) (e + 308)

/-- The double read for `significand * 10 ^ e`, `none` where it overflows. -/
def ofDecimal? (negative : Bool) (significand : Nat) (e : Int) : Option Binary64 :=
  let start := ofNat significand
  let magnitude :=
    if e < 0 then some (scaleDown 4 start e)
    else if start.isZero then some start
    else if 308 < e then none
    else
      let scaled := mul start (pow10 e.toNat)
      if scaled.isInfinite then none else some scaled
  magnitude.map fun x => if negative then x.negate else x

end Binary64

end Switchboard
