import Switchboard.Decimal.Binary64
/-!
# The shortest decimal that reads back

`Binary64.shortest` gives the fewest decimal digits that identify a double: the first grid of
one, two, … seventeen significant digits with a point among the reals that round to the double.
Of two such points the nearer is taken, and of two equally near ones the even.
-/

namespace Switchboard

/-- The decimal `0.d₁d₂d₃… * 10 ^ point`. -/
structure DecimalDigits where
  digits : List Char
  point : Int
  deriving DecidableEq, Repr

namespace Binary64

/-- The least `p` with `num / den < 10 ^ p`, for positive `num` and `den`. -/
def decimalOrder (num den : Nat) : Int :=
  let guess := ((num.log2 : Int) - den.log2) * 30103 / 100000
  let below (p : Int) : Bool := num * Nat.pow 10 (-p).toNat < den * Nat.pow 10 p.toNat
  if below (guess - 1) then guess - 1
  else if below guess then guess
  else if below (guess + 1) then guess + 1
  else guess + 2

/-- The reals that round to a double, in units of a quarter of its last binary place. -/
structure Interval where
  low : Nat
  value : Nat
  high : Nat
  /-- The ends themselves round to the double. -/
  closed : Bool

/-- The interval of a positive double. Just above a power of two the gap below is half as wide. -/
def interval (x : Binary64) : Interval :=
  let m := x.significand
  let gap := if m = hiddenBit ∧ -1074 < x.exponent then 1 else 2
  ⟨4 * m - gap, 4 * m, 4 * m + 2, m % 2 = 0⟩

/-- Whether `n` steps of `num / den` lie in the interval. -/
def Interval.holds (i : Interval) (num den n : Nat) : Bool :=
  if i.closed then i.low * den ≤ n * num && n * num ≤ i.high * den
  else i.low * den < n * num && n * num < i.high * den

/-- The point of the grid of steps `num / den` that stands for the interval's double: one of the
value's two neighbours on the grid. -/
def Interval.pick? (i : Interval) (num den : Nat) : Option Nat :=
  let below := i.value * den / num
  let above := below + 1
  match i.holds num den below, i.holds num den above with
  | true, true =>
    let down := i.value * den - below * num
    let up := above * num - i.value * den
    if down < up then some below
    else if up < down then some above
    else some (below + below % 2)
  | true, false => some below
  | false, true => some above
  | false, false => none

/-- Try the grids of `count`, `count + 1`, … digits. -/
def shortestFrom (x : Binary64) (order : Int) : (tries : Nat) → (count : Nat) → Nat × Int
  | 0, _ => (0, order)
  | tries + 1, count =>
    let unit := order - count
    let quarter := x.exponent - 2
    match x.interval.pick? (Nat.pow 10 unit.toNat <<< (-quarter).toNat)
        (Nat.pow 10 (-unit).toNat <<< quarter.toNat) with
    | some n => (n, unit)
    | none => shortestFrom x order tries (count + 1)

def stripZeros (digits : List Char) : List Char := (digits.reverse.dropWhile (· = '0')).reverse

/-- The shortest digits of a positive finite double. -/
def shortest (x : Binary64) : DecimalDigits :=
  let order := decimalOrder (x.significand <<< x.exponent.toNat) (1 <<< (-x.exponent).toNat)
  let (n, unit) := shortestFrom x order 18 1
  let digits := Nat.toDigits 10 n
  ⟨stripZeros digits, unit + digits.length⟩

end Binary64

end Switchboard
