import Gamebook.Proofs.Decimal.Nearest

/-!
# Whole numbers as doubles

A whole number of 64 bits becomes the nearest double: what does not fit into the mantissa is rounded
off. Doubles that come from whole numbers are ordered like the numbers that are left, so two whole
numbers may become equal, but they never change places.

## Key results

- `nearestWhole`: what is left of a whole number
- `exists_unpack_ofNat`: the mantissa and the exponent of a whole number
- `compare_ofInt`, `ofInt_lt_ofInt_iff`, `ofInt_beq_ofInt_iff`: doubles that come from whole numbers
  compare like what is left of these
- `nearestInt_le_nearestInt`: no two whole numbers change places
- `nearestInt_of_natAbs_le`: up to `2 ^ 53` nothing is rounded off
-/

namespace Gamebook.Decimal

open Float.Model (Format UnpackedFloat totalExponent)
open Float.Model.UnpackedFloat

/-- The whole number that is left of one when it becomes a double. -/
def nearestWhole (n : Nat) : Nat := roundDiv n (2 ^ surplusBits n) * 2 ^ surplusBits n

/-- The same for numbers of either sign. -/
def nearestInt (n : Int) : Int :=
  if n < 0 then -nearestWhole n.natAbs else nearestWhole n.natAbs

/-! ## Mantissas and exponents -/

/-- Each factor of two is a bit more. -/
theorem log2_mul_two_pow {n : Nat} (hn : n ≠ 0) (k : Nat) : (n * 2 ^ k).log2 = n.log2 + k := by
  have hself : 2 ^ n.log2 ≤ n := Nat.log2_self_le hn
  have hlt : n < 2 ^ (n.log2 + 1) := Nat.lt_log2_self
  refine (Nat.log2_eq_iff (Nat.mul_ne_zero hn (Nat.two_pow_pos _).ne')).2 ⟨?_, ?_⟩
  · rw [Nat.pow_add]
    exact Nat.mul_le_mul_right _ hself
  · rw [Nat.add_right_comm, Nat.pow_add]
    exact Nat.mul_lt_mul_of_pos_right hlt (Nat.two_pow_pos _)

/-- A number is its own quotient by one. -/
theorem roundDiv_one (n : Nat) : roundDiv n 1 = n := by
  unfold roundDiv
  rw [Nat.mod_one, if_pos (by decide), Nat.div_one]

/-- Rounding a whole number shifts a small one to the leading place first. -/
private theorem round_natCast (n : Nat) :
    UnpackedFloat.round Format.binary64 .positive n 0 =
      roundWithAccuracy Format.binary64 .positive (n * 2 ^ (52 - n.log2) / 1)
        (-(52 - n.log2 : Nat)) (accuracyOfFraction (n * 2 ^ (52 - n.log2) % 1) 1) := by
  have htarget : Format.binary64.targetExponent (totalExponent n 0) = (n.log2 : Int) - 52 := by
    show max ((n.log2 : Int) + 1 + 0 - (1 + 52 : Nat)) (3 - 2 ^ 10 - (1 + 52 : Nat)) = _
    omega
  have hshift : (0 - ((n.log2 : Int) - 52)).toNat = 52 - n.log2 := by omega
  unfold UnpackedFloat.round decreaseExponent
  simp only [htarget, hshift, Nat.shiftLeft_eq, Nat.div_one, Nat.mod_one]
  rw [Int.zero_sub]
  rfl

/-- A word becomes a double by rounding. -/
private theorem ofUInt64_eq_round {n : Nat} (hpos : 0 < n) (hn : n < 2 ^ 64) :
    UnpackedFloat.ofUInt64 Format.binary64 n.toUInt64 =
      UnpackedFloat.round Format.binary64 .positive n 0 := by
  have hword : n.toUInt64.toNat = n := by
    rw [Nat.toUInt64, UInt64.toNat_ofNat']
    omega
  have hcompare : compare (n : Int) 0 = .gt := by
    rw [Int.compare_eq_gt]
    omega
  unfold UnpackedFloat.ofUInt64 UnpackedFloat.ofNat UnpackedFloat.ofInt UnpackedFloat.normalize
  rw [hword, hcompare]
  rfl

/-- The double that a whole number of 64 bits becomes. -/
theorem exists_unpack_ofNat {n : Nat} (hpos : 0 < n) (hn : n < 2 ^ 64) :
    ∃ mantissa exponent h,
      (ofNat n).toModel.unpack = .finite .positive mantissa exponent h ∧
      Normal mantissa exponent ∧ -52 ≤ exponent ∧ exponent ≤ 12 ∧
      RoundsTo n mantissa exponent ∧ binaryValue mantissa exponent = nearestWhole n := by
  have hlog : n.log2 < 64 := (Nat.log2_lt (by omega)).2 hn
  have hself : 2 ^ n.log2 ≤ n := Nat.log2_self_le (by omega)
  have hround := round_natCast n
  obtain ⟨k, hk⟩ : ∃ k, k = 52 - n.log2 := ⟨_, rfl⟩
  rw [← hk] at hround
  have hwide : 2 ^ 52 ≤ n * 2 ^ k := by
    calc 2 ^ 52 ≤ 2 ^ (n.log2 + k) := Nat.pow_le_pow_right (by decide) (by omega)
      _ = 2 ^ n.log2 * 2 ^ k := Nat.pow_add ..
      _ ≤ n * 2 ^ k := Nat.mul_le_mul_right _ hself
  have hquotient : 2 ^ 52 ≤ n * 2 ^ k / 1 := by rwa [Nat.div_one]
  obtain ⟨m, e, h, hresult, hm, hleast, he, hnear, hvalue⟩ :=
    exists_roundsTo .positive Nat.one_pos hquotient (by omega : -1074 ≤ -(k : Int))
  rw [Nat.div_one] at hleast he hvalue
  rw [← hround] at hresult
  -- Shifting in zeros does not change how many bits are rounded off.
  have hbits : surplusBits (n * 2 ^ k) = surplusBits n := by
    unfold surplusBits
    rw [log2_mul_two_pow (by omega)]
    omega
  rw [hbits] at hleast he hvalue
  have hsmall : surplusBits n ≤ 11 := by
    unfold surplusBits
    omega
  refine ⟨m, e, h, ?_, hm, by omega, by omega, ?_, ?_⟩
  · show UnpackedFloat.unpack Format.binary64 (UnpackedFloat.pack Format.binary64
      (UnpackedFloat.ofUInt64 Format.binary64 n.toUInt64)) = _
    rw [ofUInt64_eq_round hpos hn, hresult]
    exact unpack_pack_normal .positive _ _ _ hm.low hm.high hm.least (by omega)
  · convert hnear using 1
    rw [zpow_neg, zpow_natCast]
    push_cast
    field_simp
  · -- Either nothing is shifted in, or nothing is shifted out.
    rw [hvalue]
    unfold nearestWhole
    rcases Nat.eq_zero_or_pos (surplusBits n) with hnone | hsome
    · rw [hnone, Nat.pow_zero, Nat.mul_one, roundDiv_one, roundDiv_one]
      push_cast
      rw [add_zero, zpow_neg, zpow_natCast]
      field_simp
    · have hk : k = 0 := by
        unfold surplusBits at hsome
        omega
      rw [hk, Nat.pow_zero, Nat.mul_one, Nat.one_mul]
      push_cast
      rw [neg_zero, zero_add, zpow_natCast]

/-! ## The numbers that are left -/

/-- Up to `2 ^ 53` nothing is rounded off. -/
theorem nearestWhole_of_le {n : Nat} (hn : n ≤ exactBound) : nearestWhole n = n := by
  rcases Nat.eq_or_lt_of_le hn with rfl | hlt
  · decide
  · have hbits : surplusBits n = 0 := by
      have hlog := log2_le_of_lt_exactBound n hlt
      unfold surplusBits
      omega
    unfold nearestWhole
    rw [hbits, Nat.pow_zero, roundDiv_one, Nat.mul_one]

/-- Of an even number one place more is left. -/
theorem nearestWhole_of_even {n : Nat} (heven : n % 2 = 0) (hn : n < 2 * exactBound) :
    nearestWhole n = n := by
  rcases Nat.lt_or_ge exactBound n with hlarge | hsmall
  · have hlog : n.log2 = 53 := by
      rw [Nat.log2_eq_iff (by omega)]
      unfold exactBound at hlarge hn
      omega
    unfold nearestWhole surplusBits roundDiv
    rw [hlog]
    dsimp only
    rw [if_pos (by omega)]
    omega
  · exact nearestWhole_of_le hsmall

/-- Integers up to the bound of exactness are doubles already. -/
theorem nearestInt_of_natAbs_le {n : Int} (hn : n.natAbs ≤ exactBound) : nearestInt n = n := by
  unfold nearestInt
  rw [nearestWhole_of_le hn]
  split <;> omega

/-- A positive number is rounded to a positive one. -/
theorem nearestWhole_pos {n : Nat} (hpos : 0 < n) (hn : n < 2 ^ 64) : 0 < nearestWhole n := by
  obtain ⟨m, e, h, -, -, -, -, -, hvalue⟩ := exists_unpack_ofNat hpos hn
  have hunit := two_zpow_pos e
  have hm : (0 : ℚ) < m := by exact_mod_cast h
  have hcast : (0 : ℚ) < nearestWhole n := by
    rw [← hvalue]
    exact mul_pos hm hunit
  exact_mod_cast hcast

/-- Two numbers never change places when they are rounded. -/
theorem nearestWhole_le_nearestWhole {a b : Nat} (hab : a ≤ b) (hb : b < 2 ^ 64) :
    nearestWhole a ≤ nearestWhole b := by
  rcases Nat.eq_zero_or_pos a with rfl | hpos
  · have hzero : nearestWhole 0 = 0 := by decide
    omega
  · obtain ⟨m, e, -, -, hm, -, -, hnear, hvalue⟩ := exists_unpack_ofNat hpos (by omega)
    obtain ⟨m', e', -, -, hm', -, -, hnear', hvalue'⟩ := exists_unpack_ofNat (by omega : 0 < b) hb
    -- If the doubles were the other way round, so would be the numbers.
    by_contra hlt
    have hcast : binaryValue m' e' < binaryValue m e := by
      rw [hvalue, hvalue']
      exact_mod_cast not_le.1 hlt
    have hba := hnear'.lt_of_lt hnear hm' hm ((binaryValue_lt_iff hm' hm).1 hcast)
    have hba' : b < a := by exact_mod_cast hba
    omega

/-- Nor do numbers of either sign. -/
theorem nearestInt_le_nearestInt {a b : Int} (hab : a ≤ b) (ha : a.natAbs < 2 ^ 64)
    (hb : b.natAbs < 2 ^ 64) : nearestInt a ≤ nearestInt b := by
  have hneg := fun h : b.natAbs ≤ a.natAbs => nearestWhole_le_nearestWhole h ha
  have hnonneg := fun h : a.natAbs ≤ b.natAbs => nearestWhole_le_nearestWhole h hb
  unfold nearestInt
  split <;> split <;> omega

/-! ## Order -/

/-- A whole number of either sign as a double. -/
private theorem exists_unpack_ofInt {n : Int} (hne : n ≠ 0) (hn : n.natAbs < 2 ^ 64) :
    ∃ sign mantissa exponent h,
      (ofInt n).toModel.unpack = .finite sign mantissa exponent h ∧ Normal mantissa exponent ∧
      binaryValue mantissa exponent = nearestWhole n.natAbs ∧
      (sign = .positive ∧ nearestInt n = nearestWhole n.natAbs ∨
        sign = .negative ∧ nearestInt n = -nearestWhole n.natAbs) := by
  obtain ⟨m, e, h, hunpack, hm, -, he, -, hvalue⟩ :=
    exists_unpack_ofNat (by omega : 0 < n.natAbs) hn
  unfold ofInt nearestInt
  split
  · refine ⟨.negative, m, e, h, ?_, hm, hvalue, .inr ⟨rfl, rfl⟩⟩
    show UnpackedFloat.unpack Format.binary64 (UnpackedFloat.pack Format.binary64
      (ofNat n.natAbs).toModel.unpack.neg) = _
    rw [hunpack]
    exact unpack_pack_normal .negative m e h hm.low hm.high hm.least (by omega)
  · exact ⟨.positive, m, e, h, hunpack, hm, hvalue, .inl ⟨rfl, rfl⟩⟩

/-- Doubles with normal mantissas compare like their values. -/
private theorem compare_normal {m m' a a' : Nat} {e e' : Int} (hm : Normal m e) (hm' : Normal m' e')
    (hvalue : binaryValue m e = a) (hvalue' : binaryValue m' e' = a') :
    (compare e e').then (compare m m') = compare a a' := by
  have hlt := binaryValue_lt_iff hm hm'
  have hgt := binaryValue_lt_iff hm' hm
  rw [hvalue, hvalue', Nat.cast_lt] at hlt hgt
  -- The exponents decide, and the significands where they are equal.
  rcases lt_trichotomy e e' with he | he | he
  · rw [Int.compare_eq_lt.2 he, Nat.compare_eq_lt.2 (hlt.2 (.inl he))]
    rfl
  · rw [Int.compare_eq_eq.2 he]
    rcases Nat.lt_trichotomy m m' with h | h | h
    · rw [Nat.compare_eq_lt.2 h, Nat.compare_eq_lt.2 (hlt.2 (.inr ⟨he, h⟩))]
      rfl
    · rw [Nat.compare_eq_eq.2 h, Nat.compare_eq_eq.2 (by omega)]
      rfl
    · rw [Nat.compare_eq_gt.2 h, Nat.compare_eq_gt.2 (hgt.2 (.inr ⟨he.symm, h⟩))]
      rfl
  · rw [Int.compare_eq_gt.2 he, Nat.compare_eq_gt.2 (hgt.2 (.inl he))]
    rfl

/-- Natural numbers compare as integers do. -/
private theorem compare_natCast (a b : Nat) : compare (a : Int) b = compare a b := by
  rcases Nat.lt_trichotomy a b with h | rfl | h
  · rw [Nat.compare_eq_lt.2 h, Int.compare_eq_lt.2 (by omega)]
  · rw [Nat.compare_eq_eq.2 rfl, Int.compare_eq_eq.2 rfl]
  · rw [Nat.compare_eq_gt.2 h, Int.compare_eq_gt.2 (by omega)]

/-- Negative numbers compare the other way round. -/
private theorem compare_neg_natCast (a b : Nat) :
    compare (-(a : Int)) (-(b : Int)) = (compare a b).swap := by
  rcases Nat.lt_trichotomy a b with h | rfl | h
  · rw [Nat.compare_eq_lt.2 h, Int.compare_eq_gt.2 (by omega)]
    rfl
  · rw [Nat.compare_eq_eq.2 rfl, Int.compare_eq_eq.2 rfl]
    rfl
  · rw [Nat.compare_eq_gt.2 h, Int.compare_eq_lt.2 (by omega)]
    rfl

/-- Doubles that come from whole numbers of 64 bits compare like what is left of these. -/
theorem compare_ofInt {a b : Int} (ha : a.natAbs < 2 ^ 64) (hb : b.natAbs < 2 ^ 64) :
    (ofInt a).toModel.unpack.compare (ofInt b).toModel.unpack =
      some (compare (nearestInt a) (nearestInt b)) := by
  have hzero : nearestInt 0 = 0 := by decide
  have hpos := fun (n : Int) (hne : n ≠ 0) (hn : n.natAbs < 2 ^ 64) =>
    nearestWhole_pos (by omega : 0 < n.natAbs) hn
  -- A zero has no mantissa to compare, so it is taken apart.
  rcases eq_or_ne a 0 with rfl | hane
  · rcases eq_or_ne b 0 with rfl | hbne
    · rfl
    · obtain ⟨s, m, e, h, hunpack, -, -, hsign⟩ := exists_unpack_ofInt hbne hb
      have hpos' := hpos b hbne hb
      rw [hunpack, hzero]
      rcases hsign with ⟨rfl, hvalue⟩ | ⟨rfl, hvalue⟩
      · rw [Int.compare_eq_lt.2 (by omega)]
        rfl
      · rw [Int.compare_eq_gt.2 (by omega)]
        rfl
  · obtain ⟨s, m, e, h, hunpack, hm, hmagnitude, hsign⟩ := exists_unpack_ofInt hane ha
    have hpos' := hpos a hane ha
    rcases eq_or_ne b 0 with rfl | hbne
    · rw [hunpack, hzero]
      rcases hsign with ⟨rfl, hvalue⟩ | ⟨rfl, hvalue⟩
      · rw [Int.compare_eq_gt.2 (by omega)]
        rfl
      · rw [Int.compare_eq_lt.2 (by omega)]
        rfl
    · obtain ⟨s', m', e', h', hunpack', hm', hmagnitude', hsign'⟩ := exists_unpack_ofInt hbne hb
      have hpos'' := hpos b hbne hb
      have hcompare := compare_normal hm hm' hmagnitude hmagnitude'
      -- The mantissas and exponents are looked at only if the signs agree.
      rw [hunpack, hunpack']
      rcases hsign with ⟨rfl, hvalue⟩ | ⟨rfl, hvalue⟩
      · rcases hsign' with ⟨rfl, hvalue'⟩ | ⟨rfl, hvalue'⟩
        · rw [hvalue, hvalue', compare_natCast, ← hcompare]
          rfl
        · rw [Int.compare_eq_gt.2 (by omega)]
          rfl
      · rcases hsign' with ⟨rfl, hvalue'⟩ | ⟨rfl, hvalue'⟩
        · rw [Int.compare_eq_lt.2 (by omega)]
          rfl
        · rw [hvalue, hvalue', compare_neg_natCast, ← hcompare]
          rfl

/-- One integer is read as a lesser double just when the integers nearest to both are so ordered. -/
theorem ofInt_lt_ofInt_iff {a b : Int} (ha : a.natAbs < 2 ^ 64) (hb : b.natAbs < 2 ^ 64) :
    ofInt a < ofInt b ↔ nearestInt a < nearestInt b := by
  show decide (((ofInt a).toModel.unpack.compare (ofInt b).toModel.unpack == some .lt) = true) =
    true ↔ nearestInt a < nearestInt b
  rw [compare_ofInt ha hb, ← Int.compare_eq_lt]
  simp

/-- Two integers are read as equal doubles just when the integers nearest to both are equal. -/
theorem ofInt_beq_ofInt_iff {a b : Int} (ha : a.natAbs < 2 ^ 64) (hb : b.natAbs < 2 ^ 64) :
    (ofInt a == ofInt b) = true ↔ nearestInt a = nearestInt b := by
  show ((ofInt a).toModel.unpack.compare (ofInt b).toModel.unpack == some .eq) = true ↔
    nearestInt a = nearestInt b
  rw [compare_ofInt ha hb, ← Int.compare_eq_eq]
  simp

end Gamebook.Decimal
