import Gamebook.Proofs.Decimal.NearestWhole

/-!
# Quotients of doubles

A whole number of at most fifteen digits and a power of ten up to `10 ^ 22` are doubles without
rounding, so their quotient as doubles is the double nearest to the decimal number that it stands
for.

## Key results

- `Binary.ofFloat_eq`: the parts of a double that are read off its bits
- `exists_div`: the quotient of two doubles is the double nearest to the quotient of their values
- `exists_shifted`: a whole number divided by a power of ten
-/

namespace Gamebook.Decimal

open Float.Model (Format UnpackedFloat totalExponent)
open Float.Model.UnpackedFloat

/-! ## The parts of a double -/

namespace Binary

/-- The parts of a double that was unpacked. A zero has no mantissa. -/
def ofUnpacked : UnpackedFloat → Binary
  | .notANumber => .nan
  | .infinity sign => .infinite (sign == .negative)
  | .zero sign => .finite (sign == .negative) 0 leastExponent
  | .finite sign mantissa exponent _ => .finite (sign == .negative) mantissa exponent

/-- The mantissa is in the last 52 bits. -/
private theorem toNat_unpackMantissa (b : BitVec 64) :
    (@unpackMantissa Format.binary64 b).toNat = b.toNat % 2 ^ 52 := by
  unfold unpackMantissa
  simp

/-- The exponent is in the eleven bits before the mantissa. -/
private theorem toNat_unpackExponent (b : BitVec 64) :
    (@unpackExponent Format.binary64 b).toNat = b.toNat / 2 ^ 52 % 2 ^ 11 := by
  unfold unpackExponent
  simp [Nat.shiftRight_eq_div_pow]

/-- The sign is in the first bit. -/
private theorem ofBitVec_unpackSign (b : BitVec 64) :
    (Sign.ofBitVec (@unpackSign Format.binary64 b) == .negative) =
      decide (2 ^ 63 ≤ b.toNat) := by
  have hb := b.isLt
  -- The sign is the highest bit.
  have hsign : (@unpackSign Format.binary64 b).toNat = b.toNat / 2 ^ 63 := by
    unfold unpackSign
    simp [Nat.shiftRight_eq_div_pow]
    omega
  unfold Sign.ofBitVec
  split
  next hzero =>
    have hsmall : b.toNat / 2 ^ 63 = 0 := by rw [← hsign, hzero]; rfl
    rw [decide_eq_false (by omega)]
    rfl
  next hone =>
    have hlarge : b.toNat / 2 ^ 63 ≠ 0 := fun h => hone (BitVec.eq_of_toNat_eq (hsign.trans h))
    rw [decide_eq_true (by omega)]
    rfl

/-- The parts of a double are those that its bits are unpacked into. -/
theorem ofFloat_eq (x : Float) : ofFloat x = ofUnpacked x.toModel.unpack := by
  obtain ⟨b, hb⟩ : ∃ b : BitVec 64, b = x.toModel.toBits.toBitVec := ⟨_, rfl⟩
  have hbits : x.toBits.toNat = b.toNat := hb ▸ rfl
  obtain ⟨fraction, hfraction⟩ : ∃ n, n = b.toNat % leadingBit := ⟨_, rfl⟩
  obtain ⟨field, hfield⟩ : ∃ n, n = b.toNat / leadingBit % 2048 := ⟨_, rfl⟩
  have hmantissa : (@unpackMantissa Format.binary64 b).toNat = fraction :=
    hfraction ▸ toNat_unpackMantissa b
  have hexponent : (@unpackExponent Format.binary64 b).toNat = field :=
    hfield ▸ toNat_unpackExponent b
  -- So both sides split into the same cases.
  have hgreatest : @unpackExponent Format.binary64 b = -1#_ ↔ field = 2047 := by
    rw [← BitVec.toNat_inj, hexponent]
    rfl
  have hleast : @unpackExponent Format.binary64 b = 0#_ ↔ field = 0 := by
    rw [← BitVec.toNat_inj, hexponent]
    rfl
  have hnone : @unpackMantissa Format.binary64 b = 0#_ ↔ fraction = 0 := by
    rw [← BitVec.toNat_inj, hmantissa]
    rfl
  have hsign : (Sign.ofBitVec (@unpackSign Format.binary64 b) == .negative) =
      decide (signBit ≤ b.toNat) := ofBitVec_unpackSign b
  show ofFloat x = ofUnpacked (UnpackedFloat.unpack Format.binary64 x.toModel.toBits.toBitVec)
  rw [← hb]
  unfold ofFloat UnpackedFloat.unpack
  simp only [hbits, ← hfraction, ← hfield, ← hsign, hgreatest, hleast, hnone, hexponent]
  by_cases hall : field = 2047
  · by_cases hzero : fraction = 0
    · rw [if_pos hall, if_pos hzero, if_pos hall, if_pos hzero]
      rfl
    · rw [if_pos hall, if_neg hzero, if_pos hall, if_neg hzero]
      rfl
  · rw [if_neg hall, if_neg hall]
    by_cases hsubnormal : field = 0
    · rw [if_pos hsubnormal, if_pos hsubnormal]
      -- Without a leading bit the value is a zero or has the mantissa as it is written.
      by_cases hzero : fraction = 0
      · rw [dif_pos hzero, hzero]
        rfl
      · rw [dif_neg hzero, hsubnormal]
        show Binary.finite _ fraction leastExponent =
          .finite _ (@unpackMantissa Format.binary64 b).toNat _
        rw [hmantissa]
        rfl
    · rw [if_neg hsubnormal, if_neg hsubnormal]
      -- Otherwise the leading bit is put in front of the mantissa.
      show Binary.finite _ (leadingBit + fraction) _ = .finite _
        (1#1 ++ @unpackMantissa Format.binary64 b).toNat _
      have hleading : (1#1 ++ @unpackMantissa Format.binary64 b).toNat = leadingBit + fraction := by
        rw [BitVec.toNat_append, ← Nat.shiftLeft_add_eq_or_of_lt (BitVec.isLt _), hmantissa]
        rfl
      rw [hleading]
      rfl

/-- The bounds of the parts. -/
theorem ofFloat_bounds {x : Float} {negative : Bool} {m : Nat} {e : Int}
    (h : ofFloat x = .finite negative m e) : m < 2 ^ 53 ∧ -1074 ≤ e ∧ e ≤ 971 := by
  have hfraction : x.toBits.toNat % leadingBit < leadingBit := Nat.mod_lt _ (by decide)
  have hfield : x.toBits.toNat / leadingBit % 2048 < 2048 := Nat.mod_lt _ (by decide)
  unfold ofFloat at h
  unfold leadingBit leastExponent at *
  dsimp only at h
  -- An exponent of all ones tells of nothing finite, and one of all zeros of a small number.
  split at h
  · split at h <;> cases h
  · split at h
    · obtain ⟨-, rfl, rfl⟩ := finite.inj h
      omega
    · obtain ⟨-, rfl, rfl⟩ := finite.inj h
      omega

/-- The parts of a double that was packed from a normal mantissa. -/
theorem ofFloat_pack (sign : Sign) {m : Nat} {e : Int} (h : 0 < m) (hm : Normal m e)
    (hgreatest : e ≤ 971) :
    ofFloat (.ofModel (.pack (.finite sign m e h))) = .finite (sign == .negative) m e := by
  rw [ofFloat_eq]
  show ofUnpacked (UnpackedFloat.unpack Format.binary64 (UnpackedFloat.pack Format.binary64
    (.finite sign m e h))) = _
  rw [unpack_pack_normal sign m e h hm.low hm.high hm.least hgreatest]
  rfl

/-- Such a double is negated by its sign. -/
theorem neg_pack {m : Nat} {e : Int} (h : 0 < m) (hm : Normal m e) (hgreatest : e ≤ 971) :
    -(Float.ofModel (.pack (.finite .positive m e h))) =
      .ofModel (.pack (.finite .negative m e h)) := by
  show Float.ofModel (.pack (UnpackedFloat.unpack Format.binary64
    (UnpackedFloat.pack Format.binary64 (.finite .positive m e h))).neg) = _
  rw [unpack_pack_normal .positive m e h hm.low hm.high hm.least hgreatest]
  rfl

end Binary

/-! ## Division -/

/-- What is divided gets as many digits more as a mantissa has. -/
private theorem divCore_normal {m m' : Nat} {e e' : Int} (hm : Normal m e) (hm' : Normal m' e')
    (hleast : -1021 ≤ e - e') :
    divCore Format.binary64 m e m' e' =
      (m * 2 ^ 53 / m', e - e' - 53, accuracyOfFraction (m * 2 ^ 53 % m') m') := by
  have hlog := log2_eq_of_normal m hm.low hm.high
  have hlog' := log2_eq_of_normal m' hm'.low hm'.high
  -- The exponent is lowered far enough for 53 more bits of the quotient.
  have htarget : min (e - e')
      (Format.binary64.targetExponent (totalExponent m e - totalExponent m' e')) = e - e' - 53 := by
    show min (e - e') (max ((m.log2 : Int) + 1 + e - ((m'.log2 : Int) + 1 + e') - (1 + 52 : Nat))
      (3 - 2 ^ 10 - (1 + 52 : Nat))) = _
    omega
  have hshift : (e - e' - (e - e' - 53)).toNat = 53 := by omega
  unfold divCore
  simp only [htarget, hshift, Nat.shiftLeft_eq]

/-- The quotient of two doubles is the double nearest to the quotient of their values. -/
theorem exists_div {x y : Float} {m m' : Nat} {e e' : Int} {h : 0 < m} {h' : 0 < m'}
    (hx : x.toModel.unpack = .finite .positive m e h) (hm : Normal m e)
    (hy : y.toModel.unpack = .finite .positive m' e' h') (hm' : Normal m' e')
    (hleast : -1021 ≤ e - e') (hgreatest : e - e' ≤ 1000) :
    ∃ mantissa exponent hpos,
      x / y = .ofModel (.pack (.finite .positive mantissa exponent hpos)) ∧
      Normal mantissa exponent ∧ exponent ≤ 971 ∧
      RoundsTo (binaryValue m e / binaryValue m' e') mantissa exponent := by
  -- The quotient of the mantissas has 53 bits or 54, so at most one of them is rounded off.
  have hlow : 2 ^ 52 ≤ m * 2 ^ 53 / m' := by
    rw [Nat.le_div_iff_mul_le h']
    have := hm.low
    have := hm'.high
    calc 2 ^ 52 * m' ≤ 2 ^ 52 * 2 ^ 53 := Nat.mul_le_mul_left _ (by omega)
      _ ≤ m * 2 ^ 53 := Nat.mul_le_mul_right _ (by omega)
  have hhigh : m * 2 ^ 53 / m' < 2 ^ 54 := by
    rw [Nat.div_lt_iff_lt_mul h']
    have := hm.high
    have := hm'.low
    calc m * 2 ^ 53 < 2 ^ 53 * 2 ^ 53 := Nat.mul_lt_mul_of_pos_right (by omega) (by decide)
      _ = 2 ^ 54 * 2 ^ 52 := by decide
      _ ≤ 2 ^ 54 * m' := Nat.mul_le_mul_left _ (by omega)
  obtain ⟨mantissa, exponent, hpos, hresult, hmantissa, -, hexponent, hnear, -⟩ :=
    exists_roundsTo .positive h' hlow (by omega : -1074 ≤ e - e' - 53)
  have hsurplus : surplusBits (m * 2 ^ 53 / m') ≤ 1 := by
    have hlog : (m * 2 ^ 53 / m').log2 < 54 := (Nat.log2_lt (by omega)).2 hhigh
    unfold surplusBits
    omega
  refine ⟨mantissa, exponent, hpos, ?_, hmantissa, by omega, ?_⟩
  · show Float.ofModel (.pack (UnpackedFloat.div Format.binary64 x.toModel.unpack
      y.toModel.unpack)) = _
    rw [hx, hy]
    unfold UnpackedFloat.div
    simp only [divCore_normal hm hm' hleast]
    exact congrArg (fun f => Float.ofModel (.pack f)) hresult
  · convert hnear using 1
    have hpos' : (m' : ℚ) ≠ 0 := by exact_mod_cast h'.ne'
    unfold binaryValue
    rw [zpow_sub₀ (by norm_num), zpow_sub₀ (by norm_num)]
    push_cast
    field_simp

/-! ## Division by powers of ten -/

/-- A positive double is unpacked into the parts that are read off its bits. -/
theorem exists_unpack_of_ofFloat {x : Float} {m : Nat} {e : Int}
    (h : Binary.ofFloat x = .finite false m e) (hm : 0 < m) :
    ∃ hpos, x.toModel.unpack = .finite .positive m e hpos := by
  rw [Binary.ofFloat_eq] at h
  generalize x.toModel.unpack = f at h
  -- Only a finite number that is not zero has a significand that is positive.
  cases f with
  | notANumber => cases h
  | infinity sign => cases h
  | zero sign =>
    obtain ⟨-, hzero, -⟩ := Binary.finite.inj h
    omega
  | finite sign mantissa exponent hpos =>
    obtain ⟨hsign, rfl, rfl⟩ := Binary.finite.inj h
    cases sign with
    | negative => cases hsign
    | positive => exact ⟨hpos, rfl⟩

/-- The largest power of ten that is a double without rounding. -/
def maxExactPower : Nat := 22

/-- The digits of a power of ten, shifted to the leading place. -/
def powerMantissa (k : Nat) : Nat := 10 ^ k * 2 ^ 52 / 2 ^ (10 ^ k).log2

/-- The exact powers of ten have these parts; there are few enough to look at each. -/
private theorem powerOfTen_parts : ∀ k ≤ maxExactPower,
    Binary.ofFloat (powerOfTen k) = .finite false (powerMantissa k) ((10 ^ k).log2 - 52 : Int) ∧
    2 ^ 52 ≤ powerMantissa k ∧ powerMantissa k < 2 ^ 53 ∧ (10 ^ k).log2 ≤ 73 ∧
    powerMantissa k * 2 ^ (10 ^ k).log2 = 10 ^ k * 2 ^ 52 := by
  decide

/-- An exact power of ten is unpacked to a mantissa and an exponent of the same value. -/
theorem exists_unpack_powerOfTen {k : Nat} (hk : k ≤ maxExactPower) :
    ∃ mantissa exponent h,
      (powerOfTen k).toModel.unpack = .finite .positive mantissa exponent h ∧
      Normal mantissa exponent ∧ -52 ≤ exponent ∧ exponent ≤ 21 ∧
      binaryValue mantissa exponent = 10 ^ k := by
  obtain ⟨hparts, hlow, hhigh, hlog, hvalue⟩ := powerOfTen_parts k hk
  obtain ⟨hpos, hunpack⟩ := exists_unpack_of_ofFloat hparts (by omega)
  refine ⟨_, _, hpos, hunpack, ⟨hlow, hhigh, by omega⟩, by omega, by omega, ?_⟩
  have hcast : (powerMantissa k : ℚ) * 2 ^ (10 ^ k).log2 = 10 ^ k * 2 ^ 52 := by
    exact_mod_cast hvalue
  unfold binaryValue
  rw [zpow_sub₀ (by norm_num), zpow_natCast]
  field_simp
  linarith

/-- A whole number that is a double without rounding, divided by such a power of ten, is the double
nearest to the decimal number. -/
theorem exists_shifted {n k : Nat} (hpos : 0 < n) (hn : n < 2 ^ 64) (hexact : nearestWhole n = n)
    (hk : k ≤ maxExactPower) :
    ∃ mantissa exponent hpos,
      ofNat n / powerOfTen k = .ofModel (.pack (.finite .positive mantissa exponent hpos)) ∧
      Normal mantissa exponent ∧ exponent ≤ 971 ∧
      RoundsTo (n / 10 ^ k) mantissa exponent := by
  obtain ⟨m, e, h, hunpack, hm, hleast, hgreatest, -, hvalue⟩ := exists_unpack_ofNat hpos hn
  obtain ⟨m', e', h', hunpack', hm', hleast', hgreatest', hvalue'⟩ := exists_unpack_powerOfTen hk
  have hdiv := exists_div hunpack hm hunpack' hm' (by omega) (by omega)
  rw [hvalue, hvalue', hexact] at hdiv
  exact hdiv

end Gamebook.Decimal
