import Gamebook.Json.Form

/-!
# Flag values

What a story keeps under its flags, and what conditions compare with: truth values, numbers and
texts. Values of different kinds can be compared, though most such comparisons fail.
-/

namespace Gamebook

/-- A value under a flag. -/
inductive FlagValue where
  | bool (b : Bool)
  | integer (n : Int64)
  | float (x : Float)
  | text (s : String)
  deriving DecidableEq

namespace FlagValue

/-- The number that a value is, as a double. -/
def toFloat? : FlagValue → Option Float
  | integer n => some (Decimal.ofInt n.toInt)
  | float x => some x
  | _ => none

/-- The order of two doubles, if they have one. -/
def orderFloats (x y : Float) : Option Ordering :=
  if x < y then some .lt
  else if x == y then some .eq
  else if y < x then some .gt
  else none

/-- Whether two values are equal: two numbers as doubles, others only within their kind. -/
def looselyEquals (a b : FlagValue) : Bool :=
  match a.toFloat?, b.toFloat? with
  | some x, some y => x == y
  | _, _ => a = b

/-- The order of two values: of numbers as doubles, of texts by code point. There is none for truth
values and for values of different kinds. -/
def order (a b : FlagValue) : Option Ordering :=
  match a, b with
  | text s, text t => some (if s < t then .lt else if s = t then .eq else .gt)
  | a, b =>
    match a.toFloat?, b.toFloat? with
    | some x, some y => orderFloats x y
    | _, _ => none

/-- Floats as they are shown to authors: the fewest digits, without an exponent and without a point
when they are whole. -/
def floatSpelling : Decimal.Spelling where
  tie := .upward
  pointZero := false
  positional := none
  nan := "NaN"
  infinity := "inf"
  negativeInfinity := "-inf"

/-- A value as it is shown to authors. -/
def display : FlagValue → String
  | bool b => toString b
  | integer n => toString n.toInt
  | float x => String.ofList (floatSpelling.text x)
  | text s => s

/-! ## In JSON -/

/-- The flag value that a JSON value is: a whole number if it fits, otherwise a double. -/
def ofJson : Json → Except Json.Problem FlagValue
  | .bool b => pure (bool b)
  | .int n =>
    if minInt64 ≤ n ∧ n ≤ maxInt64 then pure (integer (Int64.ofInt n))
    else pure (float (Decimal.ofInt n))
  | .float x => pure (float x)
  | .text s => pure (text s)
  | _ => .error (.mismatch (.noCase "FlagValue"))

/-- The JSON value that a flag value is written as. -/
def toJson : FlagValue → Json
  | bool b => .bool b
  | integer n => .int n.toInt
  | float x => .float x
  | text s => .text s

/-- Flag values in JSON stand without a tag. -/
def form : Form FlagValue := Form.any.check ofJson toJson

end FlagValue

end Gamebook
