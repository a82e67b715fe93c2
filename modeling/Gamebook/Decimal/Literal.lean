import Gamebook.Decimal.Binary
import Gamebook.Word

/-!
# Reading decimal literals

A literal is taken in as a significand that fits a 64-bit word and a power of ten. Digits that no
longer fit are dropped: before the point each of them raises the power, after the point they count
for nothing. The significand is then rounded to a double and scaled by one multiplication or
division, so a long literal may come out one place off the nearest double; that is the rule of
the format, and every number of at most 15 digits with a small exponent is exact.
-/

namespace Gamebook.Decimal

/-- The largest significand. -/
def maxSignificand : Nat := maxUInt64

/-- The number a digit stands for. -/
def digitValue (c : Char) : Nat := c.toNat - '0'.toNat

/-- The digits taken in so far. -/
structure Significand where
  /-- The value of the digits that fit. -/
  value : Nat := 0
  /-- The power of ten to multiply by. -/
  exponent : Int := 0
  /-- Whether a digit has been dropped already, so that no later one is taken. -/
  full : Bool := false
  deriving Repr, DecidableEq

namespace Significand

/-- Takes in a digit before the point. -/
def pushWhole (s : Significand) (digit : Char) : Significand :=
  if s.full || decide (maxSignificand < s.value * 10 + digitValue digit) then
    { s with exponent := s.exponent + 1, full := true }
  else
    { s with value := s.value * 10 + digitValue digit }

/-- Takes in a digit after the point. -/
def pushFraction (s : Significand) (digit : Char) : Significand :=
  if s.full || decide (maxSignificand < s.value * 10 + digitValue digit) then
    { s with full := true }
  else
    { s with value := s.value * 10 + digitValue digit, exponent := s.exponent - 1 }

/-- The digits of a literal: those before the point and those after it. -/
def ofDigits (whole fraction : List Char) : Significand :=
  let s := whole.foldl pushWhole {}
  fraction.foldl pushFraction { s with full := false }

end Significand

/-- The largest power of ten that a double holds. -/
def maxPower : Nat := 308

/-- A power of ten as the nearest double. -/
def powerOfTen (n : Nat) : Float := Float.ofScientific 1 false n

/-- Divides a significand by a power of ten, in one step or two. No significand is large enough to
leave anything of three. -/
def divideByPower (x : Float) (n : Nat) : Float :=
  if n ≤ maxPower then x / powerOfTen n
  else if n ≤ 2 * maxPower then x / powerOfTen maxPower / powerOfTen (n - maxPower)
  else 0

/-- The double for `value * 10 ^ exponent`, or nothing when it is too large. -/
def scaled? (value : Nat) (exponent : Int) : Option Float :=
  let x := value.toUInt64.toFloat
  if 0 ≤ exponent then
    if exponent.toNat ≤ maxPower then
      let y := x * powerOfTen exponent.toNat
      if isFinite y then some y else none
    else if x == 0 then some x
    else none
  else
    some (divideByPower x (-exponent).toNat)

/-- The largest exponent that a literal may write out in full. -/
def maxExponent : Nat := 2147483647

/-- An exponent kept within 32 bits. -/
def clampExponent (e : Int) : Int := max (-(maxExponent : Int) - 1) (min maxExponent e)

/-- The double for the digits of a literal and the exponent written after them (its sign and its
digits), or nothing when it is too large. -/
def literal? (whole fraction : List Char) (exponent : Option (Bool × List Char)) : Option Float :=
  let s := Significand.ofDigits whole fraction
  match exponent with
  | none => scaled? s.value s.exponent
  | some (negative, digits) =>
    let n := Nat.ofDigitChars 10 digits 0
    if maxExponent < n then
      if s.value ≠ 0 ∧ ¬ negative then none else some 0
    else
      scaled? s.value (clampExponent (if negative then s.exponent - n else s.exponent + n))

/-- A number of things as the nearest double. -/
def ofNat (n : Nat) : Float := n.toUInt64.toFloat

/-- A whole number as the nearest double. -/
def ofInt (n : Int) : Float :=
  if n < 0 then -(ofNat n.natAbs) else ofNat n.natAbs

end Gamebook.Decimal
