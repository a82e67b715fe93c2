import Gamebook.Decimal.Spelling
import Gamebook.Proofs.Decimal.FewestDigits
import Gamebook.Proofs.Decimal.Products

/-!
# Reading back short decimal numbers

The digits of a literal make up a whole number, which is rounded to a double and divided by a power
of ten. Where neither of the two is rounded the quotient is the double nearest to the literal. A
number with up to fifteen digits is picked for the double nearest to it, so it is found again.

## Key results

- `Significand.ofDigits_eq`: digits that fit are all taken in
- `literal?_plain` / `literal?_power`: what literals stand for
- `literal?_zeros`, `literal?_among`, `literal?_after`, `literal?_leading`: wherever the point
  stands
- `isSome_scaled?_shortest`: the number that is picked for a double is never read as too large
- `shortest_of_roundsTo`: a number with few digits is picked for the double nearest to it
- `scaled?_of_exact`: digits and powers of ten that are exact give the nearest double
- `scaled?_places` / `scaled?_whole`: so do numbers with few digits
-/

namespace Gamebook.Decimal

namespace Significand

/-- What is taken in only grows. -/
private theorem le_ofDigitChars (digits : List Char) (n : Nat) :
    n ≤ Nat.ofDigitChars 10 digits n := by
  rw [Nat.ofDigitChars_eq_ofDigitChars_zero]
  have hpos : 0 < 10 ^ digits.length := Nat.pow_pos (by decide)
  have hle : n ≤ 10 ^ digits.length * n := Nat.le_mul_of_pos_left n hpos
  omega

/-- Digits before the point that fit are all taken in. -/
private theorem foldl_pushWhole (digits : List Char) (n : Nat) (e : Int)
    (hfit : Nat.ofDigitChars 10 digits n ≤ maxSignificand) :
    digits.foldl pushWhole ⟨n, e, false⟩ = ⟨Nat.ofDigitChars 10 digits n, e, false⟩ := by
  induction digits generalizing n with
  | nil => rfl
  | cons c digits ih =>
    have hnext : Nat.ofDigitChars 10 (c :: digits) n =
        Nat.ofDigitChars 10 digits (n * 10 + digitValue c) := by
      rw [Nat.ofDigitChars_cons, Nat.mul_comm]
      rfl
    rw [hnext] at hfit ⊢
    -- What is taken in so far is no more than the whole, so nothing is dropped yet.
    have hsmall := (le_ofDigitChars digits _).trans hfit
    have hpush : pushWhole ⟨n, e, false⟩ c = ⟨n * 10 + digitValue c, e, false⟩ := by
      unfold pushWhole
      rw [if_neg (by simp; omega)]
    rw [List.foldl_cons, hpush]
    exact ih _ hfit

/-- Digits after the point that fit are all taken in, and each lowers the power. -/
private theorem foldl_pushFraction (digits : List Char) (n : Nat) (e : Int)
    (hfit : Nat.ofDigitChars 10 digits n ≤ maxSignificand) :
    digits.foldl pushFraction ⟨n, e, false⟩ =
      ⟨Nat.ofDigitChars 10 digits n, e - digits.length, false⟩ := by
  induction digits generalizing n e with
  | nil => simp
  | cons c digits ih =>
    have hnext : Nat.ofDigitChars 10 (c :: digits) n =
        Nat.ofDigitChars 10 digits (n * 10 + digitValue c) := by
      rw [Nat.ofDigitChars_cons, Nat.mul_comm]
      rfl
    rw [hnext] at hfit ⊢
    -- As before the point, but every digit lowers the power.
    have hsmall := (le_ofDigitChars digits _).trans hfit
    have hpush : pushFraction ⟨n, e, false⟩ c = ⟨n * 10 + digitValue c, e - 1, false⟩ := by
      unfold pushFraction
      rw [if_neg (by simp; omega)]
    rw [List.foldl_cons, hpush, ih _ _ hfit, List.length_cons]
    congr 1
    omega

/-- Digits that fit are all taken in. -/
theorem ofDigits_eq (whole fraction : List Char)
    (hfit : Nat.ofDigitChars 10 (whole ++ fraction) 0 ≤ maxSignificand) :
    ofDigits whole fraction =
      ⟨Nat.ofDigitChars 10 (whole ++ fraction) 0, -(fraction.length : Int), false⟩ := by
  rw [Nat.ofDigitChars_append] at hfit ⊢
  have hwhole := (le_ofDigitChars fraction _).trans hfit
  unfold ofDigits
  dsimp only
  rw [foldl_pushWhole whole 0 0 hwhole]
  dsimp only
  rw [foldl_pushFraction fraction _ 0 hfit, Int.zero_sub]

end Significand

/-- A literal without an exponent stands for its digits and the places after the point. -/
theorem literal?_plain {whole fraction : List Char} {n : Nat}
    (hvalue : Nat.ofDigitChars 10 (whole ++ fraction) 0 = n) (hfit : n ≤ maxSignificand) :
    literal? whole fraction none = scaled? n (-(fraction.length : Int)) := by
  unfold literal?
  rw [Significand.ofDigits_eq _ _ (hvalue ▸ hfit), hvalue]

/-- An exponent that is not too large is added. -/
theorem literal?_power {whole fraction : List Char} {n : Nat} {power : Int}
    (hvalue : Nat.ofDigitChars 10 (whole ++ fraction) 0 = n) (hfit : n ≤ maxSignificand)
    (hpower : power.natAbs + fraction.length ≤ maxExponent) :
    literal? whole fraction (some (decide (power < 0), digitsOf power.natAbs)) =
      scaled? n (power - fraction.length) := by
  have hdigits : Nat.ofDigitChars 10 (digitsOf power.natAbs) 0 = power.natAbs :=
    Nat.ofDigitChars_ten_toDigits
  unfold literal?
  rw [Significand.ofDigits_eq _ _ (hvalue ▸ hfit), hvalue]
  simp only [hdigits, decide_eq_true_eq]
  rw [if_neg (by omega)]
  congr 1
  unfold clampExponent
  split <;> omega

/-! ## Where the point stands -/

section

variable {digits : List Char} {n : Nat} (hvalue : Nat.ofDigitChars 10 digits 0 = n)
include hvalue

/-- Zeros before the point, and the one after it, count as digits. -/
theorem literal?_zeros (j : Nat) (hfit : n * 10 ^ (j + 1) ≤ maxSignificand) :
    literal? (digits ++ List.replicate j '0') ['0'] none = scaled? (n * 10 ^ (j + 1)) (-1) := by
  refine literal?_plain ?_ hfit
  rw [Nat.ofDigitChars_append, Nat.ofDigitChars_append, hvalue, Nat.ofDigitChars_replicate_zero,
    Nat.ofDigitChars_cons, Nat.ofDigitChars_nil, Nat.pow_succ]
  show 10 * (10 ^ j * n) + 0 = _
  ring

variable (hfit : n ≤ maxSignificand)
include hfit

/-- The point may stand among the digits. -/
theorem literal?_among {places : Nat} (hplaces : places ≤ digits.length) :
    literal? (digits.take (digits.length - places)) (digits.drop (digits.length - places)) none =
      scaled? n (-(places : Int)) := by
  have hall : Nat.ofDigitChars 10
      (digits.take (digits.length - places) ++ digits.drop (digits.length - places)) 0 = n := by
    rw [List.take_append_drop, hvalue]
  rw [literal?_plain hall hfit, List.length_drop, Nat.sub_sub_self hplaces]

/-- Zeros may stand between the point and the digits. -/
theorem literal?_after {places : Nat} (hplaces : digits.length ≤ places) :
    literal? ['0'] (List.replicate (places - digits.length) '0' ++ digits) none =
      scaled? n (-(places : Int)) := by
  have hall : Nat.ofDigitChars 10
      (['0'] ++ (List.replicate (places - digits.length) '0' ++ digits)) 0 = n := by
    rw [Nat.ofDigitChars_append, Nat.ofDigitChars_append, Nat.ofDigitChars_replicate_zero]
    exact hvalue
  rw [literal?_plain hall hfit, List.length_append, List.length_replicate,
    Nat.sub_add_cancel hplaces]

/-- The point may stand after the first digit, with the power of that digit at the end. -/
theorem literal?_leading {e : Int} (hsome : 0 < digits.length)
    (hpower : (e + digits.length - 1).natAbs + digits.length ≤ maxExponent) :
    literal? (digits.take 1) (digits.drop 1)
        (some (decide (e + digits.length - 1 < 0), digitsOf (e + digits.length - 1).natAbs)) =
      scaled? n e := by
  have hall : Nat.ofDigitChars 10 (digits.take 1 ++ digits.drop 1) 0 = n := by
    rw [List.take_append_drop, hvalue]
  have hrest : (digits.drop 1).length = digits.length - 1 := List.length_drop
  rw [literal?_power hall hfit (by omega), hrest]
  congr 1
  omega

end

/-- A number lies between the powers of ten that its digits tell. -/
theorem digitsOf_bounds {n : Nat} (hn : 0 < n) :
    0 < (digitsOf n).length ∧ 10 ^ ((digitsOf n).length - 1) ≤ n ∧
      n < 10 ^ (digitsOf n).length := by
  have hsome : 0 < (digitsOf n).length := List.length_pos_of_ne_nil Nat.toDigits_ne_nil
  refine ⟨hsome, ?_, (Nat.length_toDigits_le_iff (by decide) hsome).1 le_rfl⟩
  rcases Nat.eq_zero_or_pos ((digitsOf n).length - 1) with hone | hmore
  · rw [hone]
    exact hn
  · by_contra hshort
    have hle : (digitsOf n).length ≤ (digitsOf n).length - 1 :=
      (Nat.length_toDigits_le_iff (by decide) hmore).2 (not_le.1 hshort)
    omega

/-! ## Staying within the range -/

/-- A literal is read as a number if it is not multiplied by a power of ten, or not by too large a
one. -/
theorem isSome_scaled? {n : Nat} {k : Int}
    (h : 0 ≤ k → k ≤ maxPower ∧ isFinite (ofNat n * powerOfTen k.toNat) = true) :
    (scaled? n k).isSome := by
  unfold scaled?
  dsimp only
  split
  next hk =>
    obtain ⟨hrange, hfinite⟩ := h hk
    rw [if_pos (by omega)]
    show (if isFinite (ofNat n * powerOfTen k.toNat) then some (ofNat n * powerOfTen k.toNat)
      else none).isSome = true
    rw [if_pos hfinite]
    rfl
  next => rfl

/-- The last three doubles, for which the bounds are too wide. -/
private theorem isFinite_last : ∀ c : Fin 3,
    let number := shortest .toEven (2 ^ 53 - 1 - c) 971
    number.exponent = 292 ∧ isFinite (ofNat number.digits * powerOfTen 292) = true := by
  decide +kernel

variable {m : Nat} {e : Int}

/-- What rounds to a double is not above it by more than half of its last place, which keeps it
within the range unless the double is one of the last three. -/
private theorem le_of_roundsTo {r : ℚ} (hround : RoundsTo r m e) (hm : m < 2 ^ 53)
    (hgreatest : e ≤ 971) (hlast : ¬ (e = 971 ∧ 2 ^ 53 - 3 ≤ m)) :
    r ≤ (2 ^ 53 - 7 / 2) * 2 ^ (971 : Int) := by
  have hunit := two_zpow_pos (e - 2)
  have hend := hround.le_high.1
  rw [div_le_iff₀ hunit] at hend
  refine hend.trans ?_
  rcases Int.lt_or_eq_of_le hgreatest with hless | rfl
  · -- With a smaller exponent there is room for twice as much.
    have hbound : 4 * (m : ℚ) + 2 ≤ (2 ^ 53 - 7 / 2) * 8 := by
      have hle : m + 1 ≤ 2 ^ 53 := hm
      have hle' : (m : ℚ) + 1 ≤ 2 ^ 53 := by exact_mod_cast hle
      linarith
    have hmono : (2 : ℚ) ^ (e - 2) ≤ 2 ^ (968 : Int) :=
      zpow_le_zpow_right₀ (by norm_num) (by omega)
    have heighth : (2 : ℚ) ^ (971 : Int) = 8 * 2 ^ (968 : Int) := by
      rw [show (971 : Int) = 3 + 968 from rfl, zpow_add₀ (by norm_num)]
      norm_num
    rw [heighth, ← mul_assoc]
    exact mul_le_mul hbound hmono hunit.le (by norm_num)
  -- With the greatest exponent the last three mantissas are excluded.
  · have hcast : (m : ℚ) ≤ 2 ^ 53 - 4 := by
      have hle : m + 4 ≤ 2 ^ 53 := by omega
      have hle' : (m : ℚ) + 4 ≤ 2 ^ 53 := by exact_mod_cast hle
      linarith
    have hquarter : (2 : ℚ) ^ (971 : Int) = 4 * 2 ^ (971 - 2 : Int) := by
      rw [zpow_sub₀ (by norm_num)]
      ring
    rw [hquarter]
    generalize (2 : ℚ) ^ (971 - 2 : Int) = unit at hunit ⊢
    nlinarith

/-- A number within the range is not multiplied by a power of ten beyond it. -/
private theorem le_maxPower_of_le {n k : Nat} (hn : 0 < n)
    (hsmall : (n : ℚ) * 10 ^ k ≤ (2 ^ 53 - 7 / 2) * 2 ^ (971 : Int)) : k ≤ maxPower := by
  by_contra hlarge
  have hunit := two_zpow_pos 971
  -- Already the next power of ten is more than any finite double.
  have hpowers : (2 : ℚ) ^ 53 * 2 ^ (971 : Int) < 10 ^ 309 := by
    have hnat : 2 ^ 53 * 2 ^ 971 < 10 ^ 309 := by decide +kernel
    exact_mod_cast hnat
  have hfar : 309 ≤ k := Nat.succ_le_of_lt (not_le.1 hlarge)
  have hmono : (10 : ℚ) ^ 309 ≤ 10 ^ k := pow_le_pow_right₀ (by norm_num) hfar
  have hone : (1 : ℚ) ≤ n := by exact_mod_cast hn
  have hten : (0 : ℚ) < 10 ^ k := by positivity
  generalize (10 : ℚ) ^ 309 = bound at hpowers hmono
  generalize (2 : ℚ) ^ (971 : Int) = unit at hsmall hunit hpowers
  nlinarith

/-- The number that is picked for a double is read as a finite one. -/
theorem isSome_scaled?_shortest (hpos : 0 < m) (hm : m < 2 ^ 53) (hleast : -1074 ≤ e)
    (hgreatest : e ≤ 971) :
    (scaled? (shortest .toEven m e).digits (shortest .toEven m e).exponent).isSome := by
  by_cases hlast : e = 971 ∧ 2 ^ 53 - 3 ≤ m
  -- The three largest doubles are looked up, since for them the bound is not enough.
  · obtain ⟨rfl, hlarge⟩ := hlast
    obtain ⟨hexponent, hfinite⟩ := isFinite_last ⟨2 ^ 53 - 1 - m, by omega⟩
    have hm' : 2 ^ 53 - 1 - (2 ^ 53 - 1 - m) = m := by omega
    dsimp only at hexponent hfinite
    rw [hm'] at hexponent hfinite
    rw [hexponent]
    exact isSome_scaled? fun _ => ⟨by decide, hfinite⟩
  · obtain ⟨hround, -, -, -⟩ := shortest_spec .toEven hpos hleast hgreatest
    obtain ⟨hdigits, hmost⟩ := digits_shortest .toEven hpos hleast hgreatest
    -- Only what is multiplied can become too large, and the product is near the double.
    have hsmall := le_of_roundsTo hround hm hgreatest hlast
    generalize shortest .toEven m e = number at hsmall hdigits hmost ⊢
    refine isSome_scaled? fun hk => ?_
    obtain ⟨k, hk⟩ := Int.eq_ofNat_of_zero_le hk
    rw [hk, zpow_natCast] at hsmall
    have hrange := le_maxPower_of_le hdigits hsmall
    rw [hk, Int.toNat_natCast]
    exact ⟨by omega, isFinite_mul_powerOfTen hdigits (by omega) hrange hsmall⟩

/-! ## Numbers with few digits -/

/-- The most digits that a decimal number may have so that no other number with as many digits
rounds to the same double. -/
def fewDigits : Nat := 15

/-- Whether a double is one that stands for a decimal number with few digits, of which no more stand
behind the point than a power of ten has zeros that is a double without rounding. -/
def FewDigits (x : Float) : Prop :=
  ∃ d k : Nat, d < 10 ^ fewDigits ∧ k ≤ maxExactPower ∧
    (x = Float.ofScientific d true k ∨ x = -Float.ofScientific d true k)

/-- The powers of ten that decimal numbers are divided by. -/
private theorem exactlyRepresentablePowersOfTen_eq :
    ∀ k : Fin 23, Float.exactlyRepresentablePowersOfTen[k] = powerOfTen k := by
  decide +kernel

/-- A decimal number with few digits is a quotient of two whole numbers that are not rounded. -/
theorem ofScientific_eq {d k : Nat} (hd : d < 10 ^ fewDigits) (hk : k ≤ maxExactPower) :
    Float.ofScientific d true k = ofNat d / powerOfTen k := by
  have hsmall : 10 ^ fewDigits < 2 ^ 53 := by decide
  unfold maxExactPower at hk
  unfold Float.ofScientific
  rw [dif_pos ⟨hd.trans hsmall, hk⟩]
  dsimp only
  rw [if_pos rfl]
  exact congrArg (ofNat d / ·) (exactlyRepresentablePowersOfTen_eq ⟨k, by omega⟩)

/-- The double that stands for a positive number with few digits. -/
theorem exists_ofScientific {d k : Nat} (hpos : 0 < d) (hd : d < 10 ^ fewDigits)
    (hk : k ≤ maxExactPower) :
    ∃ mantissa exponent h,
      Float.ofScientific d true k = .ofModel (.pack (.finite .positive mantissa exponent h)) ∧
      Normal mantissa exponent ∧ exponent ≤ 971 ∧ RoundsTo (d / 10 ^ k) mantissa exponent := by
  have hsmall : 10 ^ fewDigits < exactBound := by decide
  have hbound : exactBound < 2 ^ 64 := by decide
  rw [ofScientific_eq hd hk]
  exact exists_shifted hpos (by omega) (nearestWhole_of_le (by omega)) hk

/-- A quotient of zero is zero. -/
private theorem zero_div_powerOfTen : ∀ k : Fin 23, ofNat 0 / powerOfTen k = 0 := by
  decide +kernel

/-- A double that stands for a number with few digits is a zero or the nearest one to such a
number. -/
theorem FewDigits.zero_or_nearest {x : Float} (h : FewDigits x) :
    x = 0 ∨ x = -0 ∨ ∃ sign mantissa exponent hpos, ∃ d k : Nat,
      x = .ofModel (.pack (.finite sign mantissa exponent hpos)) ∧ Normal mantissa exponent ∧
      exponent ≤ 971 ∧ d < 10 ^ fewDigits ∧ k ≤ maxExactPower ∧
      RoundsTo (d / 10 ^ k) mantissa exponent := by
  obtain ⟨d, k, hd, hk, hx⟩ := h
  -- A literal without a digit that counts is a zero.
  rcases Nat.eq_zero_or_pos d with rfl | hpos
  · have hzero : Float.ofScientific 0 true k = 0 := by
      rw [ofScientific_eq hd hk]
      exact zero_div_powerOfTen ⟨k, Nat.lt_succ_of_le hk⟩
    rw [hzero] at hx
    exact hx.imp_right .inl
  · obtain ⟨m, e, hm, hparts, hnormal, he, hround⟩ := exists_ofScientific hpos hd hk
    rw [hparts] at hx
    refine .inr (.inr ?_)
    rcases hx with rfl | rfl
    · exact ⟨.positive, m, e, hm, d, k, rfl, hnormal, he, hd, hk, hround⟩
    · exact ⟨.negative, m, e, hm, d, k, Binary.neg_pack hm hnormal he, hnormal, he, hd, hk, hround⟩

/-- What is picked for the double nearest to a number with few digits is this number. -/
theorem shortest_of_roundsTo (tie : Tie) {d k : Nat} (hd : d < 10 ^ fewDigits) (hk : k ≤ 324)
    (hm : Normal m e) (hgreatest : e ≤ 971) (hround : RoundsTo (d / 10 ^ k) m e) :
    -(k : Int) ≤ (shortest tie m e).exponent ∧
      ((shortest tie m e).digits : ℚ) * 10 ^ (shortest tie m e).exponent = d / 10 ^ k := by
  have hpos : 0 < m := by have := hm.low; omega
  obtain ⟨hpicked, -, -, hcoarsest⟩ := shortest_spec tie hpos hm.least hgreatest
  have hten : (0 : ℚ) < 10 ^ k := by positivity
  have hexponent : -(k : Int) ≤ (shortest tie m e).exponent := by
    refine hcoarsest d (-k) (by omega) (by omega) ?_
    rw [zpow_neg, zpow_natCast, ← div_eq_mul_inv]
    exact hround
  refine ⟨hexponent, ?_⟩
  generalize shortest tie m e = number at hpicked hexponent ⊢
  -- Both are points of the same grid.
  obtain ⟨j, hj⟩ : ∃ j : Nat, number.exponent + k = j := ⟨(number.exponent + k).toNat, by omega⟩
  obtain ⟨n, hn⟩ : ∃ n : Nat, n = number.digits * 10 ^ j := ⟨_, rfl⟩
  have hnumber : (number.digits : ℚ) * 10 ^ number.exponent = n / 10 ^ k := by
    have hsplit : number.exponent = j - k := by omega
    rw [hsplit, zpow_sub₀ (by norm_num), zpow_natCast, zpow_natCast, hn]
    push_cast
    ring
  rw [hnumber] at hpicked ⊢
  -- The unit of the grid is larger than the interval is wide.
  have hunit := two_zpow_pos (e - 2)
  have hlow := (hround.low_le hm.low).1
  have hlow' := (hpicked.low_le hm.low).1
  have hhigh := hround.le_high.1
  have hhigh' := hpicked.le_high.1
  rw [le_div_iff₀ hunit, le_div_iff₀ hten, mul_assoc] at hlow hlow'
  rw [div_le_iff₀ hunit, div_le_iff₀ hten, mul_assoc] at hhigh hhigh'
  have hwide : (0 : ℚ) < 2 ^ (e - 2) * 10 ^ k := mul_pos hunit hten
  generalize (2 : ℚ) ^ (e - 2) * 10 ^ k = width at hlow hlow' hhigh hhigh' hwide
  have hfirst : (2 : ℚ) ^ 52 ≤ m := by exact_mod_cast hm.low
  have hfew : (d : ℚ) < 10 ^ 15 := by exact_mod_cast hd
  -- The mantissa has its leading bit, so the width is small beside the few digits.
  have hnarrow : 4 * width < 1 := by
    have hscaled : (2 : ℚ) ^ 52 * width ≤ m * width := by gcongr
    linarith
  have hbelow : (d : ℚ) < n + 1 := by linarith
  have habove : (n : ℚ) < d + 1 := by linarith
  have hbelow' : d < n + 1 := by exact_mod_cast hbelow
  have habove' : n < d + 1 := by exact_mod_cast habove
  have hequal : n = d := by omega
  rw [hequal]

/-- A literal whose digits are a double without rounding is read as the double nearest to it, if the
power of ten is one as well. -/
theorem scaled?_of_exact {n k : Nat} {h : 0 < m} (hpos : 0 < n) (hn : n < 2 ^ 64)
    (hexact : nearestWhole n = n) (hk : 0 < k) (hk' : k ≤ maxExactPower) (hm : Normal m e)
    (hround : RoundsTo (n / 10 ^ k) m e) :
    scaled? n (-k) = some (.ofModel (.pack (.finite .positive m e h))) := by
  obtain ⟨m', e', h', hdiv, hm', -, hround'⟩ := exists_shifted hpos hn hexact hk'
  obtain ⟨rfl, rfl⟩ := hround.unique hround' hm hm'
  have hpower : (-(-(k : Int))).toNat = k := by omega
  have hrange : k ≤ maxPower := hk'.trans (by decide)
  unfold scaled? divideByPower
  dsimp only
  rw [if_neg (by omega), hpower, if_pos hrange]
  exact congrArg some hdiv

/-- So is a number with few digits in other digits with no more places: there are fewer of them, and
they are a double without rounding. -/
theorem scaled?_places {n d j k : Nat} {h : 0 < m} (hpos : 0 < n) (hd : d < 10 ^ fewDigits)
    (hj : 0 < j) (hplaces : j ≤ k) (hk : k ≤ maxExactPower) (hvalue : (n : ℚ) / 10 ^ j = d / 10 ^ k)
    (hm : Normal m e) (hround : RoundsTo (d / 10 ^ k) m e) :
    scaled? n (-j) = some (.ofModel (.pack (.finite .positive m e h))) := by
  have hd' : d < 10 ^ 15 := hd
  -- Fewer places are written with no more digits.
  have hdigits : n ≤ d := by
    have hten : (0 : ℚ) < 10 ^ k := by positivity
    have hmono : (10 : ℚ) ^ j ≤ 10 ^ k := pow_le_pow_right₀ (by norm_num) hplaces
    have hcast : (n : ℚ) ≤ d := by
      rw [div_eq_iff (by positivity)] at hvalue
      rw [hvalue, div_mul_eq_mul_div, div_le_iff₀ hten]
      gcongr
    exact_mod_cast hcast
  have hexact : nearestWhole n = n := by
    apply nearestWhole_of_le
    unfold exactBound
    omega
  apply scaled?_of_exact hpos (by omega) hexact hj (hplaces.trans hk) hm
  rw [hvalue]
  exact hround

/-- So is a whole number with few digits that is written with a zero after the point, which makes it
even. -/
theorem scaled?_whole {n : Nat} {h : 0 < m} (hpos : 0 < n) (hn : n < 10 ^ fewDigits)
    (hm : Normal m e) (hround : RoundsTo n m e) :
    scaled? (n * 10) (-1) = some (.ofModel (.pack (.finite .positive m e h))) := by
  have hn' : n < 10 ^ 15 := hn
  have hexact : nearestWhole (n * 10) = n * 10 := by
    apply nearestWhole_of_even (by omega)
    unfold exactBound
    omega
  apply scaled?_of_exact (by omega) (by omega) hexact (by decide) (by decide) hm
  have hsame : ((n * 10 : Nat) : ℚ) / 10 ^ 1 = n := by
    push_cast
    ring
  rw [hsame]
  exact hround

end Gamebook.Decimal
