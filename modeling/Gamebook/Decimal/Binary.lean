/-!
# Doubles taken apart

The exact value behind a double: a sign, a whole mantissa and a power of two. All decimal text of
this library is worked out from these parts in whole-number arithmetic, so no digit depends on a
rounded intermediate result.
-/

namespace Gamebook.Decimal

/-- What the bits of a double stand for. -/
inductive Binary where
  /-- Not a number. -/
  | nan
  /-- An infinity. -/
  | infinite (negative : Bool)
  /-- The value `mantissa * 2 ^ exponent`, negated when `negative`. -/
  | finite (negative : Bool) (mantissa : Nat) (exponent : Int)
  deriving Repr, DecidableEq

namespace Binary

/-- The first mantissa that has its leading bit, `2 ^ 52`: below it stand only the subnormal
values. -/
def leadingBit : Nat := 4503599627370496

/-- The bit that holds the sign, `2 ^ 63`. -/
def signBit : Nat := 9223372036854775808

/-- The exponent shared by all subnormal values and the smallest normal ones. -/
def leastExponent : Int := -1074

/-- The parts of a double, read off its bits. -/
def ofFloat (x : Float) : Binary :=
  let bits := x.toBits.toNat
  let negative := decide (signBit ≤ bits)
  let field : Nat := bits / leadingBit % 2048
  let fraction : Nat := bits % leadingBit
  if field = 2047 then
    if fraction = 0 then .infinite negative else .nan
  else if field = 0 then
    .finite negative fraction leastExponent
  else
    .finite negative (leadingBit + fraction) ((field : Int) - 1075)

/-- Whether the value is an ordinary number. -/
def isFinite : Binary → Bool
  | .finite .. => true
  | _ => false

end Binary

/-- Whether a double is neither an infinity nor "not a number". -/
def isFinite (x : Float) : Bool := (Binary.ofFloat x).isFinite

/-- Whether a double is "not a number". -/
def isNaN (x : Float) : Bool := Binary.ofFloat x = .nan

/-- A positive power of a base as a fraction: numerator for an exponent from 0 on. -/
def powerAbove (base : Nat) (exponent : Int) : Nat := Nat.pow base exponent.toNat

/-- The denominator that goes with `powerAbove`: 1 for an exponent from 0 on. -/
def powerBelow (base : Nat) (exponent : Int) : Nat := Nat.pow base (-exponent).toNat

/-- The least whole number that is not below a double, kept within `0` and `limit`. Zero for "not a
number". -/
def ceilWithin (limit : Nat) (x : Float) : Nat :=
  match Binary.ofFloat x with
  | .nan => 0
  | .infinite negative => if negative then 0 else limit
  | .finite true _ _ => 0
  | .finite false mantissa exponent =>
    let above := mantissa * powerAbove 2 exponent
    let below := powerBelow 2 exponent
    min limit ((above + (below - 1)) / below)

end Gamebook.Decimal
