import Gamebook.Proofs.Decimal.Quotients

/-!
# Products of doubles

The double that two doubles are multiplied to is the one nearest to the product of their values, and
a power of ten becomes the double nearest to it. So a whole number that is multiplied by a power of
ten is a finite double unless it comes near the largest one.

## Key results

- `exists_mul`: the product of two doubles is the double nearest to the product of their values
- `exists_unpack_powerOfTen_near`: powers of ten are rounded to the nearest doubles
- `isFinite_mul_powerOfTen`: a whole number times a power of ten is finite up to a bound
-/

namespace Gamebook.Decimal

open Float.Model (Format UnpackedFloat totalExponent)
open Float.Model.UnpackedFloat

/-! ## Bounds -/

/-- What rounds to a double is not much less than the double. -/
theorem RoundsTo.binaryValue_le {r : ℚ} {m : Nat} {e : Int} (h : RoundsTo r m e) (hm : 2 ^ 52 ≤ m) :
    binaryValue m e * (2 ^ 53 - 1) ≤ r * 2 ^ 53 := by
  have hunit := two_zpow_pos (e - 2)
  have hlow := (h.low_le hm).1
  rw [le_div_iff₀ hunit] at hlow
  have hcast : (2 : ℚ) ^ 52 ≤ m := by exact_mod_cast hm
  have hscaled : (2 : ℚ) ^ 52 * 2 ^ (e - 2) ≤ m * 2 ^ (e - 2) := by gcongr
  have hsplit : (2 : ℚ) ^ e = 4 * 2 ^ (e - 2) := by
    rw [zpow_sub₀ (by norm_num)]
    ring
  unfold binaryValue
  rw [hsplit]
  linarith

/-- What lies below the middle between the last double with an exponent and the next power of two
does not round to a larger exponent. -/
theorem RoundsTo.exponent_le {r : ℚ} {m : Nat} {e e' : Int} (h : RoundsTo r m e) (hm : Normal m e)
    (hleast : -1074 ≤ e') (hr : r < (2 ^ 53 - 1 / 2) * 2 ^ e') : e ≤ e' := by
  by_contra hlarge
  have hunit := two_zpow_pos (e - 2)
  obtain ⟨hlow, -, hfirst⟩ := h.low_le hm.low
  -- A larger unit would put even the first mantissa beyond the bound.
  have hend : (2 : ℚ) ^ 54 - 1 ≤ r / 2 ^ (e - 2) := by
    rcases Nat.eq_or_lt_of_le hm.low with heq | hgt
    · have hnear := hfirst heq.symm (by omega)
      rw [← heq] at hnear
      push_cast at hnear
      linarith
    · have hcast : (2 : ℚ) ^ 52 + 1 ≤ m := by exact_mod_cast hgt
      linarith
  rw [le_div_iff₀ hunit] at hend
  have hmono : (2 : ℚ) ^ e' ≤ 2 * 2 ^ (e - 2) := by
    rw [← zpow_one_add₀ (by norm_num)]
    exact zpow_le_zpow_right₀ (by norm_num) (by omega)
  linarith

/-! ## Multiplication -/

/-- A mantissa that is too wide is rounded to the nearest double. -/
private theorem exists_roundWithAccuracy {n : Nat} {e : Int} (hlow : 2 ^ 52 ≤ n)
    (hleast : -1074 ≤ e) :
    ∃ mantissa exponent hpos,
      roundWithAccuracy Format.binary64 .positive n e .exact =
        .finite .positive mantissa exponent hpos ∧
      Normal mantissa exponent ∧ e ≤ exponent ∧ RoundsTo (binaryValue n e) mantissa exponent := by
  have hquotient : 2 ^ 52 ≤ n / 1 := by rwa [Nat.div_one]
  obtain ⟨mantissa, exponent, hpos, hround, hnormal, hexponent, -, hnear, -⟩ :=
    exists_roundsTo .positive Nat.one_pos hquotient hleast
  rw [Nat.div_one, Nat.mod_one] at hround
  have hvalue : (n : ℚ) / (1 : Nat) * 2 ^ e = binaryValue n e := by
    rw [Nat.cast_one, div_one]
    rfl
  exact ⟨mantissa, exponent, hpos, hround, hnormal, by omega, hvalue ▸ hnear⟩

/-- The product of two doubles is the double nearest to the product of their values. -/
theorem exists_mul {x y : Float} {m m' : Nat} {e e' : Int} {h : 0 < m} {h' : 0 < m'}
    (hx : x.toModel.unpack = .finite .positive m e h) (hm : Normal m e)
    (hy : y.toModel.unpack = .finite .positive m' e' h') (hleast : -1074 ≤ e + e') :
    ∃ mantissa exponent hpos,
      x * y = .ofModel (.pack (.finite .positive mantissa exponent hpos)) ∧
      Normal mantissa exponent ∧
      RoundsTo (binaryValue m e * binaryValue m' e') mantissa exponent := by
  -- The product of the mantissas has more bits than a mantissa, so it is only rounded.
  have hlow : 2 ^ 52 ≤ m * m' := hm.low.trans (Nat.le_mul_of_pos_right m h')
  obtain ⟨mantissa, exponent, hpos, hround, hnormal, -, hnear⟩ :=
    exists_roundWithAccuracy hlow hleast
  refine ⟨mantissa, exponent, hpos, ?_, hnormal, ?_⟩
  · show Float.ofModel (.pack (UnpackedFloat.mul Format.binary64 x.toModel.unpack
      y.toModel.unpack)) = _
    rw [hx, hy]
    exact congrArg (fun f => Float.ofModel (.pack f)) hround
  · convert hnear using 1
    unfold binaryValue
    rw [zpow_add₀ (by norm_num)]
    push_cast
    ring

/-! ## Powers of ten -/

/-- A product with a whole number keeps the exponent of the other factor. -/
private theorem mul_finite {n n' : Nat} {e : Int} {h : 0 < n} {h' : 0 < n'} :
    UnpackedFloat.mul Format.binary64 (.finite .positive n e h) (.finite .positive n' 0 h') =
      roundWithAccuracy Format.binary64 .positive (n * n') e .exact := by
  show roundWithAccuracy Format.binary64 .positive (n * n') (e + 0) .exact = _
  rw [Int.add_zero]

/-- A power of ten that is too large to be exact is rounded. -/
private theorem powerOfTen_of_lt {k : Nat} (hk : maxExactPower < k) (hk' : k ≤ maxPower) :
    powerOfTen k = .ofModel (.pack
      (roundWithAccuracy Format.binary64 .positive (2 ^ 53 * 10 ^ k) (-53) .exact)) := by
  unfold maxExactPower at hk
  unfold maxPower at hk'
  have hmodel : powerOfTen k =
      Float.ofModel (.pack (UnpackedFloat.ofScientific Format.binary64 1 k)) := by
    unfold powerOfTen Float.ofScientific
    rw [dif_neg (by omega)]
    rfl
  -- The power is too large to be exact, so it is rounded from more bits than are kept.
  have hround : UnpackedFloat.ofScientific Format.binary64 1 k =
      roundWithAccuracy Format.binary64 .positive (2 ^ 53 * 10 ^ k) (-53) .exact := by
    unfold UnpackedFloat.ofScientific
    rw [dif_neg (by decide), if_neg (by simp; omega), if_neg (by simp; omega), if_pos (by simp),
      mul_finite, Nat.one_shiftLeft, Int.toNat_natCast]
    rfl
  rw [hmodel, hround]

/-- A power of ten becomes the nearest double. -/
theorem exists_unpack_powerOfTen_near {k : Nat} (hk : k ≤ maxPower) :
    ∃ mantissa exponent h,
      (powerOfTen k).toModel.unpack = .finite .positive mantissa exponent h ∧
      Normal mantissa exponent ∧ -53 ≤ exponent ∧ RoundsTo (10 ^ k) mantissa exponent := by
  -- A power that is no double is the rounded product of its mantissa with two to the power of 53.
  rcases Nat.lt_or_ge maxExactPower k with hlarge | hsmall
  · have hwide : 2 ^ 52 ≤ 2 ^ 53 * 10 ^ k := by
      have hpos : 0 < 10 ^ k := Nat.pow_pos (by decide)
      omega
    obtain ⟨m, e, h, hround, hm, hleast, hnear⟩ :=
      exists_roundWithAccuracy hwide (by decide : -1074 ≤ (-53 : Int))
    have hvalue : binaryValue (2 ^ 53 * 10 ^ k) (-53) = 10 ^ k := by
      unfold binaryValue
      rw [zpow_neg]
      push_cast
      field_simp
    rw [hvalue] at hnear
    -- The powers are compared as whole numbers, and only named after that.
    have hgreatest : e ≤ 971 := by
      refine hnear.exponent_le hm (by decide) ?_
      have hpowers : 10 ^ 308 < 9007199254740991 * 2 ^ 971 := by decide +kernel
      have hcast : (10 : ℚ) ^ 308 < 9007199254740991 * 2 ^ (971 : Int) := by exact_mod_cast hpowers
      have hmono : (10 : ℚ) ^ k ≤ 10 ^ 308 := pow_le_pow_right₀ (by norm_num) hk
      have hunit := two_zpow_pos 971
      generalize (2 : ℚ) ^ (971 : Int) = unit at hcast hunit ⊢
      generalize (10 : ℚ) ^ 308 = bound at hcast hmono
      linarith
    refine ⟨m, e, h, ?_, hm, hleast, hnear⟩
    rw [powerOfTen_of_lt hlarge hk, hround]
    exact unpack_pack_normal .positive m e h hm.low hm.high hm.least hgreatest
  · obtain ⟨m, e, h, hunpack, hm, hleast, -, hvalue⟩ := exists_unpack_powerOfTen hsmall
    refine ⟨m, e, h, hunpack, hm, by omega, ?_⟩
    rw [← hvalue]
    exact roundsTo_self hm.low e

/-- A whole number times a power of ten is finite, unless it comes near the largest double. -/
theorem isFinite_mul_powerOfTen {n k : Nat} (hpos : 0 < n) (hn : n < 2 ^ 64) (hk : k ≤ maxPower)
    (hsmall : (n : ℚ) * 10 ^ k ≤ (2 ^ 53 - 7 / 2) * 2 ^ (971 : Int)) :
    isFinite (ofNat n * powerOfTen k) = true := by
  obtain ⟨m, e, h, hunpack, hm, hleast, -, hnear, -⟩ := exists_unpack_ofNat hpos hn
  obtain ⟨m', e', h', hunpack', hm', hleast', hnear'⟩ := exists_unpack_powerOfTen_near hk
  obtain ⟨m'', e'', h'', hproduct, hm'', hround⟩ := exists_mul hunpack hm hunpack' (by omega)
  have hgreatest : e'' ≤ 971 := by
    refine hround.exponent_le hm'' (by decide) ?_
    -- Each of the factors was rounded up by little.
    have hvalue := hnear.binaryValue_le hm.low
    have hvalue' := hnear'.binaryValue_le hm'.low
    have hpos' : (0 : ℚ) ≤ binaryValue m e := mul_nonneg (Nat.cast_nonneg m) (two_zpow_pos e).le
    have hboth : binaryValue m e * binaryValue m' e' * (2 ^ 53 - 1) ^ 2 ≤
        (n : ℚ) * 10 ^ k * 2 ^ 106 := by
      calc binaryValue m e * binaryValue m' e' * (2 ^ 53 - 1) ^ 2
          = binaryValue m e * (2 ^ 53 - 1) * (binaryValue m' e' * (2 ^ 53 - 1)) := by ring
        _ ≤ (n : ℚ) * 2 ^ 53 * (10 ^ k * 2 ^ 53) := by
            refine mul_le_mul hvalue hvalue' ?_ (by positivity)
            exact mul_nonneg (mul_nonneg (Nat.cast_nonneg m') (two_zpow_pos e').le) (by norm_num)
        _ = (n : ℚ) * 10 ^ k * 2 ^ 106 := by ring
    have hunit := two_zpow_pos 971
    generalize (2 : ℚ) ^ (971 : Int) = unit at hsmall hunit ⊢
    generalize binaryValue m e * binaryValue m' e' = product at hboth ⊢
    generalize (n : ℚ) * 10 ^ k = exactly at hsmall hboth
    nlinarith
  unfold isFinite
  rw [hproduct, Binary.ofFloat_pack .positive h'' hm'' hgreatest]
  rfl

end Gamebook.Decimal
