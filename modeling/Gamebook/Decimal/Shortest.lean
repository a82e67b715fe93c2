import Gamebook.Decimal.Binary

/-!
# The fewest digits that read back

A double stands for every real number that rounds to it. Among the decimal numbers in that interval
`shortest` picks one with the fewest digits, and of those the nearest to the double itself. The
grids of multiples of `10 ^ k` are tried from the coarsest on: the first grid that has a point in
the interval gives the fewest digits, and if a grid has a point in the interval then one of the two
neighbours of the value on that grid is in it.
-/

namespace Gamebook.Decimal

/-- Which of two equally near decimal numbers is taken. -/
inductive Tie where
  /-- The one whose last digit is even. -/
  | toEven
  /-- The larger one. -/
  | upward
  deriving Repr, DecidableEq

/-- The choice between `n` and `n + 1` when both are equally near. -/
def Tie.pick (tie : Tie) (n : Nat) : Nat :=
  match tie with
  | .toEven => if n % 2 = 0 then n else n + 1
  | .upward => n + 1

/-- The numbers that round to a double, in units of a quarter of its last place: `low` and `high`
bound them and belong to them when `closed`. -/
structure Interval where
  low : Nat
  value : Nat
  high : Nat
  closed : Bool
  /-- The unit is `2 ^ unit`. -/
  unit : Int
  deriving Repr

/-- The interval of a positive double. The gap below a power of two is half as wide as the one
above; the ends round to an even mantissa. -/
def Interval.around (mantissa : Nat) (exponent : Int) : Interval where
  low := 4 * mantissa -
    (if mantissa = Binary.leadingBit ∧ Binary.leastExponent < exponent then 1 else 2)
  value := 4 * mantissa
  high := 4 * mantissa + 2
  closed := mantissa % 2 = 0
  unit := exponent - 2

/-- The multiple of `10 ^ k` to write for the interval's value: the nearest of its two neighbours
among those that lie in the interval, if any does. -/
def Interval.onGrid? (interval : Interval) (tie : Tie) (k : Int) : Option Nat :=
  let scale := powerAbove 2 interval.unit * powerBelow 10 k
  let grid := powerBelow 2 interval.unit * powerAbove 10 k
  let lower := interval.value * scale / grid
  let rest := interval.value * scale % grid
  let reaches (a b : Nat) : Bool := if interval.closed then a ≤ b else a < b
  match reaches (interval.low * scale) (lower * grid),
      reaches ((lower + 1) * grid) (interval.high * scale) with
  | false, false => none
  | true, false => some lower
  | false, true => some (lower + 1)
  | true, true =>
    if 2 * rest < grid then some lower
    else if grid < 2 * rest then some (lower + 1)
    else some (tie.pick lower)

/-- The exponents of the grids that can meet a double's interval, coarsest grid first. -/
def gridExponents : List Int := (List.range 634).map fun (i : Nat) => 309 - Int.ofNat i

/-- A decimal number `digits * 10 ^ exponent`. -/
structure Scientific where
  digits : Nat
  exponent : Int
  deriving Repr, DecidableEq

/-- The decimal number with the fewest digits that rounds to the positive double
`mantissa * 2 ^ exponent`, and of those the nearest. -/
def shortest (tie : Tie) (mantissa : Nat) (exponent : Int) : Scientific :=
  let interval := Interval.around mantissa exponent
  (gridExponents.findSome? fun k =>
    (interval.onGrid? tie k).map fun digits => { digits, exponent := k }).getD ⟨0, 0⟩

end Gamebook.Decimal
