import Gamebook.Proofs.Decimal.NearestWhole
import Gamebook.Play.State

/-!
# Conditions on whole numbers

A condition compares whole numbers as doubles. So it compares what is left of them when they are
rounded to 53 bits: it says the same as a comparison of the numbers themselves, unless the numbers
are different and become equal. Up to `2 ^ 53` nothing is rounded off, and no numbers become equal.

## Key results

- `Operator.Says`: what the operators say of whole numbers
- `compare_integer`: what a comparison of whole numbers says
- `Condition.ReadsInteger`: the conditions that look at a whole number
- `holds_integer`: when they hold
- `holds_integer_rounded`: a condition that holds though the numbers are different
-/

namespace Gamebook

open Decimal (nearestInt exactBound)

/-- What an operator says of two whole numbers. -/
def Operator.Says : Operator → Int → Int → Prop
  | .eq, a, b => a = b
  | .ne, a, b => a ≠ b
  | .gt, a, b => b < a
  | .lt, a, b => a < b
  | .ge, a, b => b ≤ a
  | .le, a, b => a ≤ b
  | .unrecognized _, _, _ => False

instance decidableSays (op : Operator) (a b : Int) : Decidable (op.Says a b) :=
  match op with
  | .eq => inferInstanceAs (Decidable (a = b))
  | .ne => inferInstanceAs (Decidable (a ≠ b))
  | .gt => inferInstanceAs (Decidable (b < a))
  | .lt => inferInstanceAs (Decidable (a < b))
  | .ge => inferInstanceAs (Decidable (b ≤ a))
  | .le => inferInstanceAs (Decidable (a ≤ b))
  | .unrecognized _ => inferInstanceAs (Decidable False)

/-- Whether a condition looks at a whole number: the score of a relationship, or a flag that holds
one. -/
def Condition.ReadsInteger (c : Condition) (s : State) (n : Int64) : Prop :=
  c.aspect = .relationship ∧ s.relationship c.key = n ∨
    c.aspect = .flag ∧ s.flag? c.key = some (.integer n)

namespace FlagValue

variable (a b : Int64)

/-- A signed word is small enough for what is said about rounding. -/
private theorem natAbs_lt (n : Int64) : n.toInt.natAbs < 2 ^ 64 := by
  have hlow := n.le_toInt
  have hhigh := n.toInt_lt
  omega

/-- Whole numbers are equal as flag values if what is left of them is. -/
theorem looselyEquals_integer :
    (integer a).looselyEquals (integer b) = true ↔ nearestInt a.toInt = nearestInt b.toInt :=
  Decimal.ofInt_beq_ofInt_iff (natAbs_lt a) (natAbs_lt b)

/-- Whole numbers are ordered as flag values like what is left of them. -/
theorem order_integer :
    (integer a).order (integer b) = some (compare (nearestInt a.toInt) (nearestInt b.toInt)) := by
  have hlt := Decimal.ofInt_lt_ofInt_iff (natAbs_lt a) (natAbs_lt b)
  have heq := Decimal.ofInt_beq_ofInt_iff (natAbs_lt a) (natAbs_lt b)
  have hgt := Decimal.ofInt_lt_ofInt_iff (natAbs_lt b) (natAbs_lt a)
  show orderFloats (Decimal.ofInt a.toInt) (Decimal.ofInt b.toInt) = _
  unfold orderFloats
  simp only [hlt, heq, hgt]
  -- Exactly one of the three comparisons of the doubles holds.
  rcases lt_trichotomy (nearestInt a.toInt) (nearestInt b.toInt) with h | h | h
  · rw [if_pos h, Int.compare_eq_lt.2 h]
  · rw [if_neg (by omega), if_pos h, Int.compare_eq_eq.2 h]
  · rw [if_neg (by omega), if_neg (by omega), if_pos h, Int.compare_eq_gt.2 h]

end FlagValue

/-- A comparison of whole numbers says of what is left of them what the operator says. -/
theorem Operator.compare_integer (op : Operator) (a b : Int64) :
    op.compare (some (.integer a)) (.integer b) = true ↔
      op.Says (nearestInt a.toInt) (nearestInt b.toInt) := by
  have hequal : (FlagValue.integer a).looselyEquals (.integer b) =
      decide (nearestInt a.toInt = nearestInt b.toInt) := by
    rw [Bool.eq_iff_iff, FlagValue.looselyEquals_integer, decide_eq_true_iff]
  unfold Operator.compare Operator.Says
  simp only [Option.bind_some, Option.any_some, FlagValue.order_integer, hequal]
  -- Every operator reads the order of the two doubles in its own way.
  cases op with
  | eq => simp
  | ne => simp
  | gt => simp [Int.compare_eq_gt]
  | lt => simp [Int.compare_eq_lt]
  | ge =>
    simp only [Bool.or_eq_true, decide_eq_true_eq, Option.some.injEq, Int.compare_eq_gt,
      Int.compare_eq_eq]
    omega
  | le =>
    simp only [Bool.or_eq_true, decide_eq_true_eq, Option.some.injEq, Int.compare_eq_lt,
      Int.compare_eq_eq]
    omega
  | unrecognized symbol => simp

/-- An operator says the same of two pairs of numbers that are ordered alike. -/
theorem Operator.says_congr (op : Operator) {a b m n : Int} (hlt : a < b ↔ m < n)
    (hgt : b < a ↔ n < m) : op.Says a b ↔ op.Says m n := by
  unfold Operator.Says
  cases op with
  | unrecognized symbol => exact Iff.rfl
  | _ => dsimp only; omega

namespace Condition

/-- A condition that looks at a whole number compares it with the value of the condition. -/
theorem holds_eq_compare {c : Condition} {s : State} {n : Int64} (h : c.ReadsInteger s n) :
    c.holds s.facts = c.operator.compare (some (.integer n)) c.value := by
  obtain ⟨aspect, key, value, op⟩ := c
  rcases h with ⟨rfl, rfl⟩ | ⟨rfl, hflag⟩
  · rfl
  · show op.compare (s.flag? key) value = _
    rw [hflag]

/-- A condition on a whole number holds if the comparison holds for what is left of the two numbers
when they become doubles. Unless different numbers become equal that is the comparison of the
numbers themselves, as it always is up to `2 ^ 53`. -/
theorem holds_integer (c : Condition) (s : State) (a b : Int64) (hreads : c.ReadsInteger s a)
    (hvalue : c.value = .integer b) :
    (c.holds s.facts = true ↔ c.operator.Says (nearestInt a.toInt) (nearestInt b.toInt)) ∧
    (a = b ∨ nearestInt a.toInt ≠ nearestInt b.toInt →
      (c.holds s.facts = true ↔ c.operator.Says a.toInt b.toInt)) ∧
    (a.toInt.natAbs ≤ exactBound → b.toInt.natAbs ≤ exactBound →
      (c.holds s.facts = true ↔ c.operator.Says a.toInt b.toInt)) := by
  have hholds : c.holds s.facts = true ↔
      c.operator.Says (nearestInt a.toInt) (nearestInt b.toInt) := by
    rw [holds_eq_compare hreads, hvalue]
    exact c.operator.compare_integer a b
  refine ⟨hholds, fun hapart => ?_, fun ha hb => ?_⟩
  · -- Numbers never change places, so they can only become equal.
    have hle := fun h : a.toInt ≤ b.toInt =>
      Decimal.nearestInt_le_nearestInt h (FlagValue.natAbs_lt a) (FlagValue.natAbs_lt b)
    have hge := fun h : b.toInt ≤ a.toInt =>
      Decimal.nearestInt_le_nearestInt h (FlagValue.natAbs_lt b) (FlagValue.natAbs_lt a)
    rw [hholds]
    -- A number is level with itself, and numbers that stay apart stay in order.
    rcases hapart with rfl | hne
    · exact c.operator.says_congr (by omega) (by omega)
    · exact c.operator.says_congr (by omega) (by omega)
  · rwa [Decimal.nearestInt_of_natAbs_le ha, Decimal.nearestInt_of_natAbs_le hb] at hholds

/-! ### A player and a guide -/

/-- A player who took twelve steps, and whom a guide likes more than doubles can tell. -/
def guidedState : State :=
  State.start
    { flags := Keyed.empty.insert "steps" (.integer 12)
      relationships := Keyed.empty.insert "guide" 9007199254740993 }
    "hall" .epoch

/-- The steps are counted as they are. -/
theorem holds_integer_guidedState :
    let c : Condition := ⟨.flag, "steps", .integer 10, .gt⟩
    c.ReadsInteger guidedState 12 ∧ c.value = .integer 10 ∧ c.holds guidedState.facts = true := by
  intro c
  have hreads : c.ReadsInteger guidedState 12 := .inr ⟨rfl, by decide⟩
  obtain ⟨-, -, hsmall⟩ := holds_integer c guidedState 12 10 hreads rfl
  exact ⟨hreads, rfl, (hsmall (by decide) (by decide)).2 (by decide)⟩

/-- The score of the guide is taken for the number before it. -/
theorem holds_integer_rounded :
    let c : Condition := ⟨.relationship, "guide", .integer 9007199254740992, .eq⟩
    c.ReadsInteger guidedState 9007199254740993 ∧ c.holds guidedState.facts = true ∧
      ¬ c.operator.Says (9007199254740993 : Int64).toInt (9007199254740992 : Int64).toInt := by
  intro c
  have hreads : c.ReadsInteger guidedState 9007199254740993 := .inl ⟨rfl, by decide⟩
  have hequal : nearestInt 9007199254740993 = nearestInt 9007199254740992 := by decide
  refine ⟨hreads, ?_, by decide⟩
  rw [holds_eq_compare hreads]
  exact (Operator.compare_integer .eq 9007199254740993 9007199254740992).2 hequal

end Condition

end Gamebook
