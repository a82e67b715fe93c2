import Gamebook.Decimal.Spelling
import Gamebook.Proofs.Decimal.WholeDoubles

/-!
# Rounding quotients to doubles

A quotient of whole numbers is rounded to a double by shifting its digits out to the right until as
many are left as a mantissa holds. The two bits that are kept of what was shifted out say just
enough to round to the nearest mantissa, so the result is the quotient by the shifted divisor,
rounded as a whole.

## Key results

- `extended`: a quotient with what the two bits say of its rest
- `shiftRight_extended`: shifting to the right is dividing further
- `roundedMantissa_extended`: the rounded mantissa is the rounded quotient
- `Normal`: the mantissas and exponents of doubles that are not too small
- `roundWithAccuracy_extended`: what a quotient is rounded to
-/

namespace Gamebook.Decimal

open Float.Model (Format UnpackedFloat totalExponent)
open Float.Model.UnpackedFloat

/-! ## Quotients with a rest -/

/-- A quotient as a mantissa, with what two more bits say of the rest. -/
def extended (above below : Nat) : ExtendedMantissa :=
  .ofMantissaAndAccuracy (above / below) (accuracyOfFraction (above % below) below)

variable {above below : Nat}

/-- One bit says whether the rest makes up half a unit, the other whether anything is left besides.
-/
theorem extended_eq (hbelow : 0 < below) :
    extended above below =
      ⟨above / below, decide (below ≤ 2 * (above % below)),
        decide (2 * (above % below) % below ≠ 0)⟩ := by
  have hrest : above % below < below := Nat.mod_lt _ hbelow
  unfold extended accuracyOfFraction
  split
  next hzero =>
    rw [hzero, Nat.mul_zero, Nat.zero_mod, decide_eq_false (by omega)]
    rfl
  next hne =>
    -- The half bit and the bit for the rest tell where the rest lies in the divisor.
    rcases Nat.lt_trichotomy (2 * (above % below)) below with hlt | heq | hgt
    · rw [Nat.compare_eq_lt.2 hlt, Nat.mod_eq_of_lt hlt, decide_eq_false (by omega),
        decide_eq_true (by omega)]
      rfl
    · rw [Nat.compare_eq_eq.2 heq, heq, Nat.mod_self, decide_eq_true (Nat.le_refl _)]
      rfl
    · have hmod : 2 * (above % below) % below = 2 * (above % below) - below := by
        rw [Nat.mod_eq_sub_mod (Nat.le_of_lt hgt), Nat.mod_eq_of_lt (by omega)]
      rw [Nat.compare_eq_gt.2 hgt, hmod, decide_eq_true (Nat.le_of_lt hgt),
        decide_eq_true (by omega)]
      rfl

/-- The mantissa is the whole part of the quotient. -/
theorem mantissa_extended (hbelow : 0 < below) :
    (extended above below).mantissa = above / below := by
  rw [extended_eq hbelow]

/-- A bit that is shifted out becomes the half bit. -/
theorem shiftRightOne_extended (hbelow : 0 < below) :
    (extended above below).shiftRightOne = extended above (below * 2) := by
  have hrest : above % below < below := Nat.mod_lt _ hbelow
  have hmod : above % (below * 2) = above % below + below * (above / below % 2) := Nat.mod_mul
  have hsticky : 2 * (above % (below * 2)) % (below * 2) = 2 * (above % below) := by
    rw [Nat.mul_comm below 2, Nat.mul_mod_mul_left, Nat.mul_comm 2 below, Nat.mod_mul_right_mod]
  rw [extended_eq hbelow, extended_eq (by omega), hsticky, hmod]
  unfold ExtendedMantissa.shiftRightOne
  congr 1
  · exact Nat.div_div_eq_div_mul ..
  · -- The last bit of the quotient is what the rest has in addition.
    rcases Nat.mod_two_eq_zero_or_one (above / below) with hbit | hbit
    · rw [hbit, decide_eq_false (by omega)]
      rfl
    · rw [hbit, decide_eq_true (by omega)]
      rfl
  -- What was the half bit is now a part of the rest.
  · rcases Nat.eq_zero_or_pos (above % below) with hzero | hpos
    · rw [hzero, Nat.mul_zero, Nat.zero_mod, decide_eq_false (by omega)]
      rfl
    · rw [decide_eq_true (p := 2 * (above % below) ≠ 0) (by omega)]
      rcases Nat.lt_or_ge (2 * (above % below)) below with hlt | hge
      · rw [Nat.mod_eq_of_lt hlt, decide_eq_true (p := 2 * (above % below) ≠ 0) (by omega),
          Bool.or_true]
      · rw [decide_eq_true hge, Bool.true_or]

/-- Shifting a quotient to the right is dividing it further. -/
theorem shiftRight_extended (hbelow : 0 < below) (shift : Nat) :
    extended above below >>> shift = extended above (below * 2 ^ shift) := by
  induction shift with
  | zero => rw [Nat.pow_zero, Nat.mul_one]; rfl
  | succ shift ih =>
    -- One more shift halves what is left, and divides by twice as much.
    have hpos : 0 < below * 2 ^ shift := Nat.mul_pos hbelow (Nat.two_pow_pos _)
    show (extended above below >>> shift).shiftRightOne = _
    rw [ih, shiftRightOne_extended hpos, Nat.pow_succ, Nat.mul_assoc]

/-- The rounded mantissa of a quotient is the rounded quotient. -/
theorem roundedMantissa_extended (hbelow : 0 < below) :
    (extended above below).roundedMantissa = roundDiv above below := by
  have hrest : above % below < below := Nat.mod_lt _ hbelow
  rw [extended_eq hbelow]
  unfold roundDiv
  rcases Nat.lt_trichotomy (2 * (above % below)) below with hlt | heq | hgt
  · rw [if_pos hlt, decide_eq_false (by omega)]
    cases decide (2 * (above % below) % below ≠ 0) <;> rfl
  -- In the middle the last bit decides.
  · rw [if_neg (by omega), if_neg (by omega), heq, Nat.mod_self, decide_eq_true (Nat.le_refl _)]
    show above / below + above / below % 2 = Tie.toEven.pick (above / below)
    unfold Tie.pick
    dsimp only
    split <;> omega
  · have hmod : 2 * (above % below) % below ≠ 0 := by
      rw [Nat.mod_eq_sub_mod (Nat.le_of_lt hgt), Nat.mod_eq_of_lt (by omega)]
      omega
    rw [if_neg (by omega), if_pos hgt, decide_eq_true (Nat.le_of_lt hgt), decide_eq_true hmod]
    rfl

/-- A rounded quotient is one of its two neighbours. -/
theorem roundDiv_bounds (above below : Nat) :
    above / below ≤ roundDiv above below ∧ roundDiv above below ≤ above / below + 1 := by
  unfold roundDiv Tie.pick
  dsimp only
  split
  · omega
  · split
    · omega
    · split <;> omega

/-! ## Normal doubles -/

/-- The mantissas and the exponents of doubles that are not too small to have a leading bit. How
great the exponent may be does not matter here. -/
structure Normal (mantissa : Nat) (exponent : Int) : Prop where
  low : 2 ^ 52 ≤ mantissa
  high : mantissa < 2 ^ 53
  least : -1074 ≤ exponent

/-- By how many places a quotient must be shifted out to leave a mantissa. -/
def surplusBits (n : Nat) : Nat := n.log2 - 52

/-- What goes beyond 53 bits is the surplus. -/
theorem log2_eq_surplusBits {n : Nat} (hlow : 2 ^ 52 ≤ n) : n.log2 = 52 + surplusBits n := by
  have hlog : 52 ≤ n.log2 := (Nat.le_log2 (by omega)).2 hlow
  unfold surplusBits
  omega

/-- What is left of a quotient fills the places of a mantissa. -/
theorem shifted_bounds {n : Nat} (hlow : 2 ^ 52 ≤ n) :
    2 ^ 52 ≤ n / 2 ^ surplusBits n ∧ n / 2 ^ surplusBits n < 2 ^ 53 := by
  have hlog := log2_eq_surplusBits hlow
  have hself : 2 ^ n.log2 ≤ n := Nat.log2_self_le (by omega)
  have hlt : n < 2 ^ (n.log2 + 1) := Nat.lt_log2_self
  rw [hlog] at hself hlt
  refine ⟨(Nat.le_div_iff_mul_le (Nat.two_pow_pos _)).2 ?_,
    (Nat.div_lt_iff_lt_mul (Nat.two_pow_pos _)).2 ?_⟩
  · rwa [← Nat.pow_add]
  · rw [← Nat.pow_add]
    have hsum : 53 + surplusBits n = 52 + surplusBits n + 1 := by omega
    rwa [hsum]

/-- A quotient is shifted so that a mantissa is left. -/
private theorem shiftToTargetExponent_extended {e : Int} (hbelow : 0 < below)
    (hlow : 2 ^ 52 ≤ above / below) (hleast : -1074 ≤ e) :
    shiftToTargetExponent Format.binary64 (above / below) e
        (accuracyOfFraction (above % below) below) =
      (extended above (below * 2 ^ surplusBits (above / below)),
        e + surplusBits (above / below)) := by
  have hlog := log2_eq_surplusBits hlow
  -- The exponent goes up by as many bits as the quotient has too many.
  have htarget : Format.binary64.targetExponent (totalExponent (above / below) e) =
      e + surplusBits (above / below) := by
    show max (((above / below).log2 : Int) + 1 + e - (1 + 52 : Nat))
      (3 - 2 ^ 10 - (1 + 52 : Nat)) = _
    omega
  have hshift :
      (e + (surplusBits (above / below) : Int) - e).toNat = surplusBits (above / below) := by
    omega
  unfold shiftToTargetExponent shiftToExponent
  simp only [htarget, hshift]
  exact congrArg (·, _) (shiftRight_extended hbelow _)

/-- A quotient with enough digits is rounded to the nearest mantissa. If that does not fit any more,
it is the first one for the next exponent. -/
theorem roundWithAccuracy_extended (sign : Sign) {e : Int} (hbelow : 0 < below)
    (hlow : 2 ^ 52 ≤ above / below) (hleast : -1074 ≤ e) :
    ∃ mantissa exponent hpos,
      roundWithAccuracy Format.binary64 sign (above / below) e
          (accuracyOfFraction (above % below) below) = .finite sign mantissa exponent hpos ∧
      Normal mantissa exponent ∧
      let shift := surplusBits (above / below)
      let rounded := roundDiv above (below * 2 ^ shift)
      (mantissa = rounded ∧ exponent = e + shift) ∨
        (rounded = 2 ^ 53 ∧ mantissa = 2 ^ 52 ∧ exponent = e + shift + 1) := by
  have hfirst := shiftToTargetExponent_extended hbelow hlow hleast
  generalize hshift : surplusBits (above / below) = shift at hfirst ⊢
  have hpos : 0 < below * 2 ^ shift := Nat.mul_pos hbelow (Nat.two_pow_pos _)
  have hrounded : (extended above (below * 2 ^ shift)).roundedMantissa =
      roundDiv above (below * 2 ^ shift) := roundedMantissa_extended hpos
  -- The quotient lies between the least and the greatest mantissa.
  have hquotient : 2 ^ 52 ≤ above / (below * 2 ^ shift) ∧ above / (below * 2 ^ shift) < 2 ^ 53 := by
    rw [← Nat.div_div_eq_div_mul, ← hshift]
    exact shifted_bounds hlow
  have hbounds := roundDiv_bounds above (below * 2 ^ shift)
  generalize hm : roundDiv above (below * 2 ^ shift) = m at hrounded hbounds ⊢
  -- A mantissa that became too large by rounding is shifted once more.
  have hagain : shiftToTargetExponent Format.binary64 m (e + shift) .exact =
      (extended m (1 * 2 ^ surplusBits m), e + shift + surplusBits m) := by
    have hshifted := @shiftToTargetExponent_extended m 1 (e + shift) Nat.one_pos
      (by rw [Nat.div_one]; omega) (by omega)
    rwa [Nat.div_one, Nat.mod_one] at hshifted
  have hmantissa : (extended m (1 * 2 ^ surplusBits m)).mantissa = m / 2 ^ surplusBits m := by
    rw [mantissa_extended (by rw [Nat.one_mul]; exact Nat.two_pow_pos _), Nat.one_mul]
  have hleft := shifted_bounds (n := m) (by omega)
  have hne : m / 2 ^ surplusBits m ≠ 0 := by omega
  refine ⟨m / 2 ^ surplusBits m, e + shift + surplusBits m, Nat.pos_of_ne_zero hne, ?_,
    ⟨hleft.1, hleft.2, by omega⟩, ?_⟩
  · unfold roundWithAccuracy
    simp only [hfirst, hrounded, hagain, hmantissa, dif_neg hne]
  -- Either the rounded quotient fits, or it is the first number that does not.
  · rcases Nat.lt_or_ge m (2 ^ 53) with hlt | hge
    · have hnone : surplusBits m = 0 := by
        unfold surplusBits
        rw [log2_eq_of_normal m (by omega) hlt]
      rw [hnone]
      exact .inl ⟨(Nat.div_one m).trans hm.symm, Int.add_zero _⟩
    · have hfull : m = 2 ^ 53 := by omega
      have hone : surplusBits (2 ^ 53) = 1 := by
        unfold surplusBits
        rw [Nat.log2_two_pow]
      rw [hfull, hone]
      exact .inr ⟨hm.trans hfull, rfl, rfl⟩

end Gamebook.Decimal
