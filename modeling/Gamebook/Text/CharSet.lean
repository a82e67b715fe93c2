/-!
# Sets of characters

A set of characters is given by its borders: the code points, in increasing order, at which
membership changes. A character belongs to the set when an odd number of borders lie at or below
it.
-/

namespace Gamebook.Text

/-- A set of characters, as the code points at which membership changes. -/
structure CharSet where
  borders : List Nat

/-- Whether a character belongs to a set. -/
def CharSet.contains (set : CharSet) (c : Char) : Bool :=
  set.borders.countP (· ≤ c.toNat) % 2 = 1

end Gamebook.Text
