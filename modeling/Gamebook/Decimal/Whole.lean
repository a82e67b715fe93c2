import Gamebook.Decimal.Literal

/-!
# Whole numbers as people type them

Digits with a sign that may be left out. Zeros may come first.
-/

namespace Gamebook.Decimal

/-- The number that digits stand for; none when there are no digits or other characters. -/
def ofDigits? (digits : List Char) : Option Nat :=
  if !digits.isEmpty && digits.all Char.isDigit then
    some (digits.foldl (fun n c => 10 * n + digitValue c) 0)
  else
    none

/-- The number that a text stands for, which may begin with a plus sign. -/
def unsigned? : List Char → Option Nat
  | '+' :: digits => ofDigits? digits
  | digits => ofDigits? digits

/-- The number that a text stands for, which may begin with either sign. -/
def signed? : List Char → Option Int
  | '-' :: digits => (ofDigits? digits).map fun n => -Int.ofNat n
  | text => (unsigned? text).map Int.ofNat

/-- The word of 32 bits that a text stands for. Zero may have a minus sign. -/
def uint32? (text : String) : Option UInt32 :=
  match signed? text.toList with
  | some n => if 0 ≤ n ∧ n ≤ maxUInt32 then some (UInt32.ofNat n.toNat) else none
  | none => none

/-- The count that a text stands for, as a number that fits into 64 bits. -/
def count? (text : String) : Option Nat :=
  match unsigned? text.toList with
  | some n => if n ≤ maxUInt64 then some n else none
  | none => none

end Gamebook.Decimal
