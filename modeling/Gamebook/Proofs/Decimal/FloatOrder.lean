import Gamebook.Proofs.Decimal.Quotients

/-!
# The order of doubles

Doubles are compared by their signs, exponents and mantissas. The mantissa of a double has its
leading bit unless the exponent is the least one, so that a greater exponent makes a greater number,
and doubles that are numbers have the order of the numbers that they stand for. The two zeros stand
for the same number, and the infinities lie beyond all others.

## Key results

- `Canonical`: the mantissas and exponents of doubles, with `canonical_of_unpack`
- `number`: what a double stands for
- `compare_numberOf`: doubles compare like what they stand for
- `lt_iff_number_lt`, `beq_iff_number_eq`: so do the operators on them
-/

namespace Gamebook.Decimal

open Float.Model (UnpackedFloat)
open Float.Model.UnpackedFloat

/-! ## Mantissas and exponents -/

/-- The mantissas and exponents of doubles: the leading bit of the mantissa is there unless the
exponent is the least one. -/
structure Canonical (mantissa : Nat) (exponent : Int) : Prop where
  high : mantissa < 2 ^ 53
  least : -1074 ≤ exponent
  low : -1074 < exponent → 2 ^ 52 ≤ mantissa

/-- What is unpacked is canonical: it has a leading bit unless its exponent is the least. -/
theorem canonical_of_unpack {x : Float} {sign : Sign} {m : Nat} {e : Int} {h : 0 < m}
    (hx : x.toModel.unpack = .finite sign m e h) : Canonical m e := by
  have hparts : Binary.ofFloat x = .finite (sign == .negative) m e := by
    rw [Binary.ofFloat_eq, hx]
    rfl
  obtain ⟨hhigh, hleast, -⟩ := Binary.ofFloat_bounds hparts
  refine ⟨hhigh, hleast, fun he => ?_⟩
  unfold Binary.ofFloat at hparts
  dsimp only at hparts
  split at hparts
  · split at hparts <;> cases hparts
  · split at hparts
    · -- Without a leading bit the exponent is the least one.
      obtain ⟨-, -, rfl⟩ := Binary.finite.inj hparts
      unfold Binary.leastExponent at he
      omega
    · obtain ⟨-, rfl, -⟩ := Binary.finite.inj hparts
      exact Nat.le_add_right _ _

namespace Canonical

variable {m m' : Nat} {e e' : Int}

/-- A greater exponent makes a greater number, and so does a greater mantissa with the same one. -/
theorem binaryValue_lt (hm : Canonical m e) (hm' : Canonical m' e')
    (h : e < e' ∨ e = e' ∧ m < m') : binaryValue m e < binaryValue m' e' := by
  unfold binaryValue
  rcases h with he | ⟨rfl, hmm⟩
  -- With a greater exponent even the least mantissa is beyond the greatest one.
  · have hlow : (2 : ℚ) ^ 52 ≤ m' := by exact_mod_cast hm'.low (by have := hm.least; omega)
    have hhigh : (m : ℚ) < 2 ^ 53 := by exact_mod_cast hm.high
    have hunit : (2 : ℚ) * 2 ^ e ≤ 2 ^ e' := by
      rw [← zpow_one_add₀ (by norm_num)]
      exact zpow_le_zpow_right₀ (by norm_num) (by omega)
    calc (m : ℚ) * 2 ^ e < 2 ^ 53 * 2 ^ e := by gcongr
      _ = 2 ^ 52 * (2 * 2 ^ e) := by ring
      _ ≤ m' * 2 ^ e' := by gcongr
  · have hcast : (m : ℚ) < m' := by exact_mod_cast hmm
    gcongr

/-- Values of canonical parts compare as their exponents do, and then as their mantissas do. -/
theorem compare_binaryValue (hm : Canonical m e) (hm' : Canonical m' e') :
    compare (binaryValue m e) (binaryValue m' e') = (compare e e').then (compare m m') := by
  rcases lt_trichotomy e e' with he | rfl | he
  · rw [compare_lt_iff_lt.2 he, compare_lt_iff_lt.2 (hm.binaryValue_lt hm' (.inl he))]
    rfl
  · rw [compare_eq_iff_eq.2 (rfl : e = e)]
    -- Under one exponent the significands decide.
    rcases lt_trichotomy m m' with h | rfl | h
    · rw [compare_lt_iff_lt.2 h, compare_lt_iff_lt.2 (hm.binaryValue_lt hm' (.inr ⟨rfl, h⟩))]
      rfl
    · rw [compare_eq_iff_eq.2 (rfl : m = m), compare_eq_iff_eq.2 rfl]
      rfl
    · rw [compare_gt_iff_gt.2 h, compare_gt_iff_gt.2 (hm'.binaryValue_lt hm (.inr ⟨rfl, h⟩))]
      rfl
  · rw [compare_gt_iff_gt.2 he, compare_gt_iff_gt.2 (hm'.binaryValue_lt hm (.inl he))]
    rfl

end Canonical

/-! ## What a double stands for -/

/-- What the parts of a double stand for. Those that are no number count as zero. -/
noncomputable def numberOf : UnpackedFloat → EReal
  | .infinity .positive => ⊤
  | .infinity .negative => ⊥
  | .finite .positive m e _ => (binaryValue m e : ℝ)
  | .finite .negative m e _ => (-binaryValue m e : ℝ)
  | .zero _ | .notANumber => 0

/-- What a double stands for. -/
noncomputable def number (x : Float) : EReal := numberOf x.toModel.unpack

/-- A value with a positive mantissa is positive. -/
theorem binaryValue_pos {m : Nat} (hm : 0 < m) (e : Int) : 0 < (binaryValue m e : ℝ) := by
  have h : 0 < binaryValue m e := mul_pos (by exact_mod_cast hm) (two_zpow_pos e)
  exact_mod_cast h

/-- Numbers and their negatives compare as extended numbers like they do otherwise. -/
private theorem compare_cast (q r : ℚ) :
    compare ((q : ℝ) : EReal) (r : ℝ) = compare q r ∧
      compare ((-q : ℝ) : EReal) (-r : ℝ) = (compare q r).swap := by
  have hmono : StrictMono fun q : ℚ => ((q : ℝ) : EReal) :=
    EReal.coe_strictMono.comp Rat.cast_strictMono
  have hanti : StrictAnti fun q : ℚ => ((-q : ℝ) : EReal) := fun q r hqr =>
    EReal.coe_lt_coe_iff.2 (neg_lt_neg (by exact_mod_cast hqr))
  simp only [← cmp_eq_compare]
  rw [cmp_swap]
  exact ⟨hmono.cmp_map_eq q r, hanti.cmp_map_eq q r⟩

/-- Doubles that are no zeros and no infinities compare like what they stand for. -/
private theorem compare_numberOf_finite {sign sign' : Sign} {m m' : Nat} {e e' : Int} {h : 0 < m}
    {h' : 0 < m'} (hm : Canonical m e) (hm' : Canonical m' e') :
    some (compare (numberOf (.finite sign m e h)) (numberOf (.finite sign' m' e' h'))) =
      UnpackedFloat.compare (.finite sign m e h) (.finite sign' m' e' h') := by
  have hpos := binaryValue_pos h e
  have hpos' := binaryValue_pos h' e'
  obtain ⟨hsame, hswap⟩ := compare_cast (binaryValue m e) (binaryValue m' e')
  rw [hm.compare_binaryValue hm'] at hsame hswap
  -- Of two negative numbers the one with the greater value is the lesser.
  cases sign with
  | negative =>
    cases sign' with
    | negative => exact congrArg some hswap
    | positive => exact congrArg some (compare_lt_iff_lt.2 (EReal.coe_lt_coe (by linarith)))
  | positive =>
    cases sign' with
    | negative => exact congrArg some (compare_gt_iff_gt.2 (EReal.coe_lt_coe (by linarith)))
    | positive => exact congrArg some hsame

/-- Whether what is not zero or infinite has the mantissa and the exponent of a double. -/
def Fits : UnpackedFloat → Prop
  | .finite _ m e _ => Canonical m e
  | _ => True

/-- Every unpacked double is canonical where it is finite. -/
theorem fits_unpack (x : Float) : Fits x.toModel.unpack := by
  cases hx : x.toModel.unpack with
  | finite sign m e h => exact canonical_of_unpack hx
  | _ => trivial

/-- Doubles that are numbers compare like what they stand for. -/
theorem compare_numberOf {x y : UnpackedFloat} (hx : x.isNaN = false) (hy : y.isNaN = false)
    (hfits : Fits x) (hfits' : Fits y) :
    some (compare (numberOf x) (numberOf y)) = x.compare y := by
  cases x with
  | notANumber => cases hx
  -- An infinity is beyond all that is finite, on its side.
  | infinity sign =>
    cases y with
    | notANumber => cases hy
    | infinity sign' =>
      cases sign <;> cases sign' <;> simp [UnpackedFloat.compare, numberOf] <;> rfl
    | zero sign' =>
      cases sign <;> simp [UnpackedFloat.compare, numberOf, compare_lt_iff_lt, compare_gt_iff_gt]
    | finite sign' m' e' h' =>
      cases sign <;> cases sign' <;>
        simp [UnpackedFloat.compare, numberOf, compare_lt_iff_lt, compare_gt_iff_gt,
          -EReal.coe_neg]
  -- A zero lies between the signs, and its own sign does not matter.
  | zero sign =>
    cases y with
    | notANumber => cases hy
    | infinity sign' =>
      cases sign' <;> simp [UnpackedFloat.compare, numberOf, compare_lt_iff_lt, compare_gt_iff_gt]
    | zero sign' => simp [UnpackedFloat.compare, numberOf]
    | finite sign' m' e' h' =>
      have hpos' := binaryValue_pos h' e'
      cases sign' <;>
        simp [UnpackedFloat.compare, numberOf, compare_lt_iff_lt, compare_gt_iff_gt, hpos']
  | finite sign m e h =>
    -- A finite number lies between the infinities, and two of them are compared by their parts.
    have hpos := binaryValue_pos h e
    cases y with
    | notANumber => cases hy
    | infinity sign' =>
      cases sign <;> cases sign' <;>
        simp [UnpackedFloat.compare, numberOf, compare_lt_iff_lt, compare_gt_iff_gt,
          -EReal.coe_neg]
    | zero sign' =>
      cases sign <;>
        simp [UnpackedFloat.compare, numberOf, compare_lt_iff_lt, compare_gt_iff_gt, hpos]
    | finite sign' m' e' h' => exact compare_numberOf_finite hfits hfits'

/-! ## Doubles that are numbers -/

/-- A double is no number just when what is unpacked of it is none. -/
theorem isNaN_eq (x : Float) : isNaN x = x.toModel.unpack.isNaN := by
  unfold isNaN
  rw [Binary.ofFloat_eq]
  cases x.toModel.unpack <;> rfl

/-- A whole number becomes a double that is a number. -/
theorem isNaN_ofInt {n : Int} (hn : n.natAbs < 2 ^ 64) : isNaN (ofInt n) = false := by
  have hself := compare_ofInt hn hn
  rw [isNaN_eq]
  -- What is no number compares with nothing, not even with itself.
  cases hunpack : (ofInt n).toModel.unpack with
  | notANumber =>
    rw [hunpack] at hself
    cases hself
  | _ => rfl

variable {x y : Float}

/-- Doubles that are numbers compare as the numbers do. -/
theorem compare_unpack (hx : isNaN x = false) (hy : isNaN y = false) :
    x.toModel.unpack.compare y.toModel.unpack = some (compare (number x) (number y)) := by
  rw [isNaN_eq] at hx hy
  exact (compare_numberOf hx hy (fits_unpack x) (fits_unpack y)).symm

/-- One double is less than another just when its number is. -/
theorem lt_iff_number_lt (hx : isNaN x = false) (hy : isNaN y = false) :
    x < y ↔ number x < number y := by
  show decide ((x.toModel.unpack.compare y.toModel.unpack == some .lt) = true) = true ↔ _
  rw [compare_unpack hx hy, ← compare_lt_iff_lt]
  simp

/-- Two doubles are equal just when their numbers are. -/
theorem beq_iff_number_eq (hx : isNaN x = false) (hy : isNaN y = false) :
    (x == y) = true ↔ number x = number y := by
  show (x.toModel.unpack.compare y.toModel.unpack == some .eq) = true ↔ _
  rw [compare_unpack hx hy, ← compare_eq_iff_eq]
  simp

end Gamebook.Decimal
