import Gamebook.Decimal.Literal
import Mathlib

/-!
# Doubles that are whole numbers

A whole number below `2 ^ 53` is a double without rounding: its digits are shifted up until the
leading one stands in the leading place of the mantissa, and nothing is dropped. Such doubles are
therefore ordered like the numbers they stand for.

## Key results

- `unpack_pack_normal`: a mantissa that fills its places survives being packed into bits
- `unpack_ofNat`: the mantissa and the exponent of a small whole number
- `ofNat_lt_ofNat_iff` / `ofNat_beq_ofNat_iff`: small whole numbers compare as doubles like as
  numbers
-/

namespace Gamebook.Decimal

open Float.Model (Format UnpackedFloat totalExponent)
open Float.Model.UnpackedFloat

/-- The first whole number that may need rounding, `2 ^ 53`. -/
def exactBound : Nat := 9007199254740992

/-! ## Packing -/

/-- A mantissa that fills its places is what its lower places and the leading one make up. -/
private theorem toNat_append_leading (m : Nat) (hlow : 2 ^ 52 ≤ m) (hhigh : m < 2 ^ 53) :
    (1#1 ++ BitVec.ofNat 52 m).toNat = m := by
  rw [BitVec.toNat_append, ← Nat.shiftLeft_add_eq_or_of_lt (BitVec.isLt _)]
  have hrest : (BitVec.ofNat 52 m).toNat = m % 2 ^ 52 := BitVec.toNat_ofNat m 52
  rw [hrest]
  show 1 <<< 52 + m % 2 ^ 52 = m
  omega

/-- A mantissa with its leading bit has 53 bits. -/
theorem log2_eq_of_normal (m : Nat) (hlow : 2 ^ 52 ≤ m) (hhigh : m < 2 ^ 53) : m.log2 = 52 := by
  have hne : m ≠ 0 := by omega
  exact (Nat.log2_eq_iff hne).2 ⟨hlow, hhigh⟩

/-- A mantissa that fills its places survives being packed into bits, if its exponent fits. -/
theorem unpack_pack_normal (sign : Sign) (m : Nat) (e : Int) (hpos : 0 < m) (hlow : 2 ^ 52 ≤ m)
    (hhigh : m < 2 ^ 53) (hleast : -1074 ≤ e) (hgreatest : e ≤ 971) :
    UnpackedFloat.unpack Format.binary64 (UnpackedFloat.pack Format.binary64
      (.finite sign m e hpos)) = .finite sign m e hpos := by
  have hlog := log2_eq_of_normal m hlow hhigh
  obtain ⟨biased, hbiased⟩ : ∃ biased : Nat, e + 1023 + 52 = biased :=
    ⟨(e + 1023 + 52).toNat, by omega⟩
  have htoNat : (e + 1023 + 52).toNat = biased := by omega
  have hexponent : (BitVec.ofNat 11 biased).toNat = biased := by
    rw [BitVec.toNat_ofNat]
    omega
  have hpack : UnpackedFloat.pack Format.binary64 (.finite sign m e hpos) =
      packComponents Format.binary64 sign (BitVec.ofNat 11 biased) (BitVec.ofNat 52 m) := by
    show (if 2 ^ 11 ≤ (e + 1023 + 52).toNat + 1 then _
      else if m.log2 + 1 = 53 then
        packComponents Format.binary64 sign (BitVec.ofNat 11 (e + 1023 + 52).toNat)
          (BitVec.ofNat 52 m)
      else _) = _
    rw [htoNat, if_neg (by omega), if_pos (by omega)]
  -- The exponent is neither that of infinities nor that of subnormal values.
  have hne : ∀ v : BitVec 11, v.toNat ≠ biased → BitVec.ofNat 11 biased ≠ v :=
    fun v hv h => hv (by rw [← h, hexponent])
  have hfinite : BitVec.ofNat 11 biased ≠ -1#11 := by
    have hall : (-1#11 : BitVec 11).toNat = 2047 := by decide
    exact hne _ (by omega)
  have hnormal : BitVec.ofNat 11 biased ≠ 0#11 := by
    have hzero : (0#11 : BitVec 11).toNat = 0 := by decide
    exact hne _ (by omega)
  rw [hpack]
  unfold UnpackedFloat.unpack
  simp only [unpackMantissa_packComponents, unpackExponent_packComponents,
    unpackSign_packComponents, Sign.ofBitVec_toBitVec, if_neg hfinite, if_neg hnormal, hexponent,
    toNat_append_leading m hlow hhigh]
  have hback : (biased : Int) - ((1023 : Nat) + (52 : Nat)) = e := by omega
  exact congrArg (fun e => UnpackedFloat.finite sign m e hpos) hback

/-! ## Rounding -/

/-- A mantissa that fills its places is left as it is. -/
private theorem shiftToTargetExponent_normal (m : Nat) (e : Int) (hlow : 2 ^ 52 ≤ m)
    (hhigh : m < 2 ^ 53) (hleast : -1074 ≤ e) :
    shiftToTargetExponent Format.binary64 m e .exact = (⟨m, false, false⟩, e) := by
  have hlog := log2_eq_of_normal m hlow hhigh
  have htarget : Format.binary64.targetExponent (totalExponent m e) = e := by
    show max ((m.log2 : Int) + 1 + e - (1 + 52 : Nat)) (3 - 2 ^ 10 - (1 + 52 : Nat)) = e
    omega
  unfold shiftToTargetExponent shiftToExponent
  simp only [htarget, Int.sub_self]
  show (_, e + 0) = _
  rw [Int.add_zero]
  rfl

/-- A mantissa with its leading bit is left as it is by rounding. -/
private theorem roundWithAccuracy_normal (m : Nat) (e : Int) (hpos : 0 < m) (hlow : 2 ^ 52 ≤ m)
    (hhigh : m < 2 ^ 53) (hleast : -1074 ≤ e) :
    roundWithAccuracy Format.binary64 .positive m e .exact = .finite .positive m e hpos := by
  have hshift := shiftToTargetExponent_normal m e hlow hhigh hleast
  have hrounded : ExtendedMantissa.roundedMantissa ⟨m, false, false⟩ = m := rfl
  unfold roundWithAccuracy
  simp only [hshift, hrounded, dif_neg (Nat.ne_of_gt hpos)]

/-- The leading digit of a small whole number, shifted to the leading place. -/
def shifted (n : Nat) : Nat := n * 2 ^ (52 - n.log2)

/-- A number that is exact as a double has 53 bits at most. -/
theorem log2_le_of_lt_exactBound (n : Nat) (hn : n < exactBound) : n.log2 ≤ 52 := by
  by_cases hzero : n = 0
  · subst hzero
    decide
  · have h : n.log2 < 53 := (Nat.log2_lt hzero).2 hn
    omega

/-- Shifted up, the number has its leading bit in the first place. -/
private theorem le_shifted (n : Nat) (hpos : 0 < n) (hn : n < exactBound) : 2 ^ 52 ≤ shifted n := by
  have hlog := log2_le_of_lt_exactBound n hn
  have hself : 2 ^ n.log2 ≤ n := Nat.log2_self_le (by omega)
  calc 2 ^ 52 = 2 ^ n.log2 * 2 ^ (52 - n.log2) := by rw [← Nat.pow_add]; congr 1; omega
    _ ≤ shifted n := Nat.mul_le_mul_right _ hself

/-- It does not get longer than a mantissa. -/
private theorem shifted_lt (n : Nat) (hn : n < exactBound) : shifted n < 2 ^ 53 := by
  have hlog := log2_le_of_lt_exactBound n hn
  have hself : n < 2 ^ (n.log2 + 1) := Nat.lt_log2_self
  calc shifted n < 2 ^ (n.log2 + 1) * 2 ^ (52 - n.log2) :=
        Nat.mul_lt_mul_of_pos_right hself (Nat.two_pow_pos _)
    _ = 2 ^ 53 := by rw [← Nat.pow_add]; congr 1; omega

/-- A positive number stays positive when it is shifted. -/
private theorem shifted_pos (n : Nat) (hpos : 0 < n) : 0 < shifted n :=
  Nat.mul_pos hpos (Nat.two_pow_pos _)

/-- The mantissa and the exponent of a small whole number. -/
theorem unpack_ofNat (n : Nat) (hpos : 0 < n) (hn : n < exactBound) :
    (ofNat n).toModel.unpack =
      .finite .positive (shifted n) ((n.log2 : Int) - 52) (shifted_pos n hpos) := by
  have hlog := log2_le_of_lt_exactBound n hn
  have hlow := le_shifted n hpos hn
  have hhigh := shifted_lt n hn
  have hword : n.toUInt64.toNat = n := by
    rw [Nat.toUInt64, UInt64.toNat_ofNat']
    unfold exactBound at hn
    omega
  -- The exponent that leaves room for all digits.
  have htarget : Format.binary64.targetExponent (totalExponent n 0) = (n.log2 : Int) - 52 := by
    show max ((n.log2 : Int) + 1 + 0 - (1 + 52 : Nat)) (3 - 2 ^ 10 - (1 + 52 : Nat)) = _
    omega
  have hshift : (0 - ((n.log2 : Int) - 52)).toNat = 52 - n.log2 := by omega
  have hexponent : (0 : Int) - ((52 - n.log2 : Nat) : Int) = (n.log2 : Int) - 52 := by omega
  have hround : UnpackedFloat.round Format.binary64 .positive n 0 =
      .finite .positive (shifted n) ((n.log2 : Int) - 52) (shifted_pos n hpos) := by
    unfold UnpackedFloat.round decreaseExponent
    simp only [htarget, hshift, hexponent, Nat.shiftLeft_eq]
    exact roundWithAccuracy_normal (shifted n) _ (shifted_pos n hpos) hlow hhigh (by omega)
  have hnormalize : UnpackedFloat.ofUInt64 Format.binary64 n.toUInt64 =
      UnpackedFloat.round Format.binary64 .positive n 0 := by
    unfold UnpackedFloat.ofUInt64 UnpackedFloat.ofNat UnpackedFloat.ofInt UnpackedFloat.normalize
    have hcompare : compare (n : Int) 0 = .gt := by
      rw [Int.compare_eq_gt]
      omega
    rw [hword, hcompare]
    rfl
  show UnpackedFloat.unpack Format.binary64 (UnpackedFloat.pack Format.binary64
    (UnpackedFloat.ofUInt64 Format.binary64 n.toUInt64)) = _
  rw [hnormalize, hround]
  exact unpack_pack_normal .positive _ _ _ hlow hhigh (by omega) (by omega)

/-- The double of zero is a zero. -/
theorem unpack_ofNat_zero : (ofNat 0).toModel.unpack = .zero .positive := by
  rfl

/-! ## Order -/

/-- More digits, or as many that stand for more, make a greater number. -/
private theorem compare_shifted (a b : Nat) (ha : 0 < a) (hb : 0 < b) :
    (compare ((a.log2 : Int) - 52) ((b.log2 : Int) - 52)).then (compare (shifted a) (shifted b)) =
      compare a b := by
  -- A number with fewer digits is less.
  have hlower : ∀ m n : Nat, 0 < n → m.log2 < n.log2 → m < n := fun m n hn h => by
    have hm : m < 2 ^ (m.log2 + 1) := Nat.lt_log2_self
    have hself : 2 ^ n.log2 ≤ n := Nat.log2_self_le (by omega)
    have hpow : 2 ^ (m.log2 + 1) ≤ 2 ^ n.log2 := Nat.pow_le_pow_right (by decide) h
    omega
  rcases Nat.lt_trichotomy a.log2 b.log2 with hlt | heq | hgt
  · have hnumber : compare a b = .lt := Nat.compare_eq_lt.2 (hlower a b hb hlt)
    have hdigits : compare ((a.log2 : Int) - 52) ((b.log2 : Int) - 52) = .lt :=
      Int.compare_eq_lt.2 (by omega)
    rw [hnumber, hdigits]
    rfl
  · -- With as many digits, both are shifted by the same.
    have hdigits : compare ((a.log2 : Int) - 52) ((b.log2 : Int) - 52) = .eq :=
      Int.compare_eq_eq.2 (by omega)
    have hpos : 0 < 2 ^ (52 - b.log2) := Nat.two_pow_pos _
    rw [hdigits]
    show compare (a * 2 ^ (52 - a.log2)) (b * 2 ^ (52 - b.log2)) = compare a b
    rw [heq]
    rcases Nat.lt_trichotomy a b with h | h | h
    · rw [Nat.compare_eq_lt.2 h, Nat.compare_eq_lt.2 (Nat.mul_lt_mul_of_pos_right h hpos)]
    · rw [h, Nat.compare_eq_eq.2 rfl, Nat.compare_eq_eq.2 rfl]
    · rw [Nat.compare_eq_gt.2 h, Nat.compare_eq_gt.2 (Nat.mul_lt_mul_of_pos_right h hpos)]
  · have hnumber : compare a b = .gt := Nat.compare_eq_gt.2 (hlower b a ha hgt)
    have hdigits : compare ((a.log2 : Int) - 52) ((b.log2 : Int) - 52) = .gt :=
      Int.compare_eq_gt.2 (by omega)
    rw [hnumber, hdigits]
    rfl

/-- Small whole numbers have the same order as doubles and as numbers. -/
theorem compare_ofNat (a b : Nat) (ha : a < exactBound) (hb : b < exactBound) :
    (ofNat a).toModel.unpack.compare (ofNat b).toModel.unpack = some (compare a b) := by
  rcases Nat.eq_zero_or_pos a with rfl | hapos
  · rcases Nat.eq_zero_or_pos b with rfl | hbpos
    · rfl
    · rw [unpack_ofNat_zero, unpack_ofNat b hbpos hb, Nat.compare_eq_lt.2 hbpos]
      rfl
  · rcases Nat.eq_zero_or_pos b with rfl | hbpos
    · rw [unpack_ofNat_zero, unpack_ofNat a hapos ha, Nat.compare_eq_gt.2 hapos]
      rfl
    · rw [unpack_ofNat a hapos ha, unpack_ofNat b hbpos hb]
      exact congrArg some (compare_shifted a b hapos hbpos)

/-- Small whole numbers are in order as doubles if they are as numbers. -/
theorem ofNat_lt_ofNat_iff (a b : Nat) (ha : a < exactBound) (hb : b < exactBound) :
    ofNat a < ofNat b ↔ a < b := by
  show decide (((ofNat a).toModel.unpack.compare (ofNat b).toModel.unpack == some .lt) = true) =
    true ↔ a < b
  rw [compare_ofNat a b ha hb, ← Nat.compare_eq_lt]
  simp

/-- Small whole numbers are equal as doubles if they are as numbers. -/
theorem ofNat_beq_ofNat_iff (a b : Nat) (ha : a < exactBound) (hb : b < exactBound) :
    (ofNat a == ofNat b) = true ↔ a = b := by
  show ((ofNat a).toModel.unpack.compare (ofNat b).toModel.unpack == some .eq) = true ↔ a = b
  rw [compare_ofNat a b ha hb, ← Nat.compare_eq_eq]
  simp

end Gamebook.Decimal
