import Gamebook.Decimal.Shortest

/-!
# Spelling doubles

A `Spelling` says how the shortest digits of a double are laid out; `Fixed` text has a given number
of places instead. The spellings in use belong to the formats that write them.
-/

namespace Gamebook.Decimal

/-- How doubles are written. -/
structure Spelling where
  /-- Which of two equally short and equally near numbers is written. -/
  tie : Tie
  /-- Whether a whole number keeps a point and a zero. -/
  pointZero : Bool
  /-- The exponents of the leading digit that are written positionally: from `fst` on and below
  `snd`. All of them when there is no bound. -/
  positional : Option (Int × Int)
  nan : String
  infinity : String
  negativeInfinity : String

/-- The decimal digits of a number. -/
def digitsOf (n : Nat) : List Char := Nat.toDigits 10 n

/-- Digits without an exponent. `exponent` is that of the last digit. -/
def positionalText (pointZero : Bool) (digits : List Char) (exponent : Int) : List Char :=
  if 0 ≤ exponent then
    digits ++ List.replicate exponent.toNat '0' ++ (if pointZero then ['.', '0'] else [])
  else
    let places := (-exponent).toNat
    if places < digits.length then
      digits.take (digits.length - places) ++ '.' :: digits.drop (digits.length - places)
    else
      '0' :: '.' :: (List.replicate (places - digits.length) '0' ++ digits)

/-- One digit before the point, and the exponent of that digit with its sign. -/
def exponentText (digits : List Char) (leading : Int) : List Char :=
  let mantissa := match digits with
    | first :: second :: rest => first :: '.' :: second :: rest
    | few => few
  let sign := if leading < 0 then '-' else '+'
  mantissa ++ 'e' :: sign :: digitsOf leading.natAbs

namespace Spelling

/-- The text of a positive decimal number. -/
def scientific (spelling : Spelling) (number : Scientific) : List Char :=
  let digits := digitsOf number.digits
  let leading := number.exponent + digits.length - 1
  match spelling.positional with
  | none => positionalText spelling.pointZero digits number.exponent
  | some (least, bound) =>
    if least ≤ leading ∧ leading < bound then
      positionalText spelling.pointZero digits number.exponent
    else
      exponentText digits leading

/-- The text of a double. -/
def text (spelling : Spelling) (x : Float) : List Char :=
  match Binary.ofFloat x with
  | .nan => spelling.nan.toList
  | .infinite true => spelling.negativeInfinity.toList
  | .infinite false => spelling.infinity.toList
  | .finite negative mantissa exponent =>
    let magnitude :=
      if mantissa = 0 then positionalText spelling.pointZero ['0'] 0
      else spelling.scientific (shortest spelling.tie mantissa exponent)
    if negative then '-' :: magnitude else magnitude

end Spelling

/-- A quotient rounded to the nearest whole number, an exact half to the even one. -/
def roundDiv (above below : Nat) : Nat :=
  let lower := above / below
  let rest := above % below
  if 2 * rest < below then lower
  else if below < 2 * rest then lower + 1
  else Tie.toEven.pick lower

/-- Whole-number digits with the last `places` of them after a point. -/
def placedText (places : Nat) (n : Nat) : List Char :=
  let digits := digitsOf n
  let padded := List.replicate (places + 1 - digits.length) '0' ++ digits
  padded.take (padded.length - places) ++ '.' :: padded.drop (padded.length - places)

/-- A double with a fixed number of places after the point, rounded from its exact value. The sign
of a negative number stays, also when all its digits are zero. -/
def fixedText (places : Nat) (x : Float) : List Char :=
  match Binary.ofFloat x with
  | .nan => ['N', 'a', 'N']
  | .infinite true => ['-', 'i', 'n', 'f']
  | .infinite false => ['i', 'n', 'f']
  | .finite negative mantissa exponent =>
    let magnitude := placedText places
      (roundDiv (mantissa * powerAbove 2 exponent * Nat.pow 10 places) (powerBelow 2 exponent))
    if negative then '-' :: magnitude else magnitude

end Gamebook.Decimal
