import Gamebook.Proofs.Decimal.WholeDoubles
import Gamebook.Play.State

/-!
# When conditions hold

Conditions compare numbers as doubles. The points of a player are small enough for that to make no
difference, so a condition on the score says what it seems to say.

## Key results

- `order_integer_natCast`: counts have the same order as flag values and as numbers
- `holds_scoreAtLeast`: a condition on the score compares the points as numbers
- `holds_visited`: a condition on a visit asks whether the scene has been entered
-/

namespace Gamebook

namespace FlagValue

/-- A count that a signed word holds is read back from it. -/
private theorem toInt_ofInt_natCast (n : Nat) (hn : n < Decimal.exactBound) :
    (Int64.ofInt n).toInt = n := by
  unfold Decimal.exactBound at hn
  exact Int64.toInt_ofInt_of_le (by omega) (by omega)

/-- A small count becomes the double of that count. -/
private theorem toFloat?_integer_natCast (n : Nat) (hn : n < Decimal.exactBound) :
    (integer (Int64.ofInt n)).toFloat? = some (Decimal.ofNat n) := by
  have hsign : ¬ (n : Int) < 0 := by omega
  unfold toFloat? Decimal.ofInt
  simp only [toInt_ofInt_natCast n hn, if_neg hsign, Int.natAbs_natCast]

/-- Counts have the same order as flag values and as numbers. -/
theorem order_integer_natCast (m n : Nat) (hm : m < Decimal.exactBound)
    (hn : n < Decimal.exactBound) :
    (integer (Int64.ofInt m)).order (integer (Int64.ofInt n)) = some (compare m n) := by
  have hlt := Decimal.ofNat_lt_ofNat_iff m n hm hn
  have heq := Decimal.ofNat_beq_ofNat_iff m n hm hn
  have hgt := Decimal.ofNat_lt_ofNat_iff n m hn hm
  unfold order
  simp only [toFloat?_integer_natCast m hm, toFloat?_integer_natCast n hn, orderFloats, hlt, heq,
    hgt]
  rcases Nat.lt_trichotomy m n with h | h | h
  · rw [if_pos h, Nat.compare_eq_lt.2 h]
  · rw [if_neg (by omega), if_pos h, Nat.compare_eq_eq.2 h]
  · rw [if_neg (by omega), if_neg (by omega), if_pos h, Nat.compare_eq_gt.2 h]

end FlagValue

namespace Condition

/-- A word of 32 bits is no trouble for a double. -/
private theorem toNat_lt_exactBound (points : UInt32) : points.toNat < Decimal.exactBound := by
  have h := points.toNat_lt
  unfold Decimal.exactBound
  omega

/-- A condition on the score compares the points as numbers. -/
theorem holds_scoreAtLeast (points : UInt32) (facts : Facts) :
    (scoreAtLeast points).holds facts = true ↔ points.toNat ≤ facts.points.toNat := by
  have horder := FlagValue.order_integer_natCast facts.points.toNat points.toNat
    (toNat_lt_exactBound _) (toNat_lt_exactBound _)
  unfold scoreAtLeast holds Operator.compare
  simp only [Option.bind_some, horder]
  rw [← Nat.compare_ne_lt]
  -- The operator holds unless the points are less.
  cases compare facts.points.toNat points.toNat <;> simp

/-- A condition on a visit asks whether the scene has been entered. -/
theorem holds_visited (scene : String) (facts : Facts) :
    (visited scene).holds facts = facts.hasVisited scene := by
  unfold visited holds Operator.compare FlagValue.looselyEquals
  cases facts.hasVisited scene <;> rfl

end Condition

end Gamebook
