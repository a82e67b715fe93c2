import Gamebook.Proofs.Decimal.Rounding

/-!
# The nearest double

The numbers that round to a double make up an interval around it. The intervals of different doubles
have no number in common: where two of them meet, only one double has an even mantissa. So the
double that a number rounds to is known by any mantissa and exponent whose interval contains the
number, and a number that is a double rounds to itself.

## Key results

- `Interval.Contains`: the numbers in an interval
- `RoundsTo`: the numbers that round to a double
- `roundsTo_self`: a double rounds to itself
- `RoundsTo.unique`: a number rounds to one double only
- `exists_roundsTo`: rounding a quotient gives the double that it rounds to
-/

namespace Gamebook.Decimal

open Float.Model (Format UnpackedFloat totalExponent)
open Float.Model.UnpackedFloat

/-- The value of a mantissa with an exponent. -/
def binaryValue (mantissa : Nat) (exponent : Int) : ℚ := mantissa * 2 ^ exponent

/-- Whether a number lies in an interval. -/
def Interval.Contains (interval : Interval) (r : ℚ) : Prop :=
  let q := r / 2 ^ interval.unit
  if interval.closed then interval.low ≤ q ∧ q ≤ interval.high
  else interval.low < q ∧ q < interval.high

/-- Whether a number rounds to a positive double. -/
def RoundsTo (r : ℚ) (mantissa : Nat) (exponent : Int) : Prop :=
  (Interval.around mantissa exponent).Contains r

variable {r : ℚ} {m m' : Nat} {e e' : Int}

/-- Powers of two are positive. -/
theorem two_zpow_pos (e : Int) : (0 : ℚ) < 2 ^ e := zpow_pos (by norm_num) e

/-- A number that rounds to a double is not above the upper end of its interval, and not even there
if the mantissa is odd. -/
theorem RoundsTo.le_high (h : RoundsTo r m e) :
    r / 2 ^ (e - 2) ≤ 4 * m + 2 ∧ (m % 2 = 1 → r / 2 ^ (e - 2) < 4 * m + 2) := by
  unfold RoundsTo Interval.Contains Interval.around at h
  dsimp only at h
  push_cast at h
  split at h
  next heven =>
    have hm : m % 2 = 0 := of_decide_eq_true heven
    exact ⟨h.2, fun hodd => by omega⟩
  next => exact ⟨h.2.le, fun _ => h.2⟩

/-- Nor is it below the lower end, which is nearer if the mantissa is the first one. -/
theorem RoundsTo.low_le (h : RoundsTo r m e) (hm : 2 ^ 52 ≤ m) :
    4 * (m : ℚ) - 2 ≤ r / 2 ^ (e - 2) ∧ (m % 2 = 1 → 4 * (m : ℚ) - 2 < r / 2 ^ (e - 2)) ∧
      (m = 2 ^ 52 → -1074 < e → 4 * (m : ℚ) - 1 ≤ r / 2 ^ (e - 2)) := by
  unfold RoundsTo Interval.Contains Interval.around at h
  dsimp only at h
  have hlow : ∀ n ≤ 4 * m, ((4 * m - n : Nat) : ℚ) = 4 * m - n := fun n hn => by
    rw [Nat.cast_sub hn]
    push_cast
    rfl
  -- The lower end is one quarter of a place below the first mantissa, and two below the others.
  have hends : 4 * (m : ℚ) - 2 ≤
      ((4 * m - if m = Binary.leadingBit ∧ Binary.leastExponent < e then 1 else 2 : Nat) : ℚ) := by
    split
    · rw [hlow 1 (by omega)]
      push_cast
      linarith
    · rw [hlow 2 (by omega)]
      push_cast
      linarith
  -- The ends belong to the interval of an even mantissa only, and the first mantissa is even.
  refine ⟨?_, fun hodd => ?_, fun hfirst hleast => ?_⟩
  · split at h
    · exact hends.trans h.1
    · exact hends.trans h.1.le
  · rw [if_neg (by simp [hodd])] at h
    exact hends.trans_lt h.1
  · have heven : m % 2 = 0 := by omega
    rw [if_pos (by simp [heven]), if_pos ⟨hfirst, hleast⟩, hlow 1 (by omega)] at h
    exact_mod_cast h.1

/-- What rounds to a smaller double is smaller: the upper end of its interval is not above the lower
end of the other one, and where they meet one of the mantissas is odd. -/
theorem RoundsTo.lt_of_lt {r' : ℚ} (h : RoundsTo r m e) (h' : RoundsTo r' m' e') (hm : Normal m e)
    (hm' : Normal m' e') (hlt : e < e' ∨ e = e' ∧ m < m') : r < r' := by
  have hpos := two_zpow_pos (e - 2)
  obtain ⟨hhigh, hodd⟩ := h.le_high
  obtain ⟨hlow, hodd', hfirst⟩ := h'.low_le hm'.low
  rcases hlt with he | ⟨rfl, hmm⟩
  · -- The unit of the other interval is at least twice as large.
    have hunit : r' / 2 ^ (e - 2) = r' / 2 ^ (e' - 2) * 2 ^ (e' - e) := by
      have hsplit : (2 : ℚ) ^ (e' - 2) = 2 ^ (e' - e) * 2 ^ (e - 2) := by
        rw [← zpow_add₀ (by norm_num)]
        congr 1
        ring
      have hpos' := two_zpow_pos (e' - e)
      rw [hsplit]
      field_simp
    have htwice : (2 : ℚ) ≤ 2 ^ (e' - e) := by
      calc (2 : ℚ) = 2 ^ (1 : ℤ) := (zpow_one 2).symm
        _ ≤ 2 ^ (e' - e) := zpow_le_zpow_right₀ (by norm_num) (by omega)
    -- The first mantissa begins a quarter later, and every other lies a place further.
    have hend : (2 : ℚ) ^ 54 - 1 ≤ r' / 2 ^ (e' - 2) := by
      rcases Nat.eq_or_lt_of_le hm'.low with heq | hgt
      · have hnear := hfirst heq.symm (by have := hm.least; omega)
        rw [← heq] at hnear
        push_cast at hnear
        linarith
      · have hcast : (2 : ℚ) ^ 52 + 1 ≤ m' := by exact_mod_cast hgt
        linarith
    have hfar : (2 : ℚ) ^ 55 - 2 ≤ r' / 2 ^ (e - 2) := by
      rw [hunit]
      calc (2 : ℚ) ^ 55 - 2 = (2 ^ 54 - 1) * 2 := by norm_num
        _ ≤ r' / 2 ^ (e' - 2) * 2 ^ (e' - e) := by gcongr
    rw [← div_lt_div_iff_of_pos_right hpos]
    -- Only the last mantissa of the smaller unit comes near.
    rcases Nat.eq_or_lt_of_le (Nat.le_sub_one_of_lt hm.high) with hlast | hearlier
    · have hstrict := hodd (by omega)
      rw [hlast] at hstrict
      norm_num at hstrict hfar
      linarith
    · have hcast : (m : ℚ) + 1 ≤ 2 ^ 53 - 1 := by
        have hle : m + 1 + 1 ≤ 2 ^ 53 := by omega
        have hle' : (m : ℚ) + 1 + 1 ≤ 2 ^ 53 := by exact_mod_cast hle
        linarith
      linarith
  · rw [← div_lt_div_iff_of_pos_right hpos]
    have hnext : (m : ℚ) + 1 ≤ m' := by exact_mod_cast hmm
    rcases Nat.eq_or_lt_of_le (Nat.succ_le_of_lt hmm) with heq | hgt
    · -- Of two neighbours one is odd.
      rcases Nat.mod_two_eq_zero_or_one m with heven | hone
      · have hstrict := hodd' (by omega)
        linarith
      · have hstrict := hodd hone
        linarith
    · have hcast : (m : ℚ) + 1 + 1 ≤ m' := by exact_mod_cast hgt
      linarith

/-- A number rounds to one double only. -/
theorem RoundsTo.unique (h : RoundsTo r m e) (h' : RoundsTo r m' e') (hm : Normal m e)
    (hm' : Normal m' e') : m = m' ∧ e = e' := by
  have hnot : ¬ (e < e' ∨ e = e' ∧ m < m') := fun hlt => lt_irrefl r (h.lt_of_lt h' hm hm' hlt)
  have hnot' : ¬ (e' < e ∨ e' = e ∧ m' < m) := fun hlt => lt_irrefl r (h'.lt_of_lt h hm' hm hlt)
  omega

/-! ## What rounds to a double -/

/-- What it takes to round to a double. -/
theorem roundsTo_of_bounds (hm : 2 ^ 52 ≤ m) (hlow : 4 * (m : ℚ) - 2 ≤ r / 2 ^ (e - 2))
    (hhigh : r / 2 ^ (e - 2) ≤ 4 * m + 2) (hfirst : m = 2 ^ 52 → 4 * (m : ℚ) - 1 ≤ r / 2 ^ (e - 2))
    (hodd : m % 2 = 1 → 4 * (m : ℚ) - 2 < r / 2 ^ (e - 2) ∧ r / 2 ^ (e - 2) < 4 * m + 2) :
    RoundsTo r m e := by
  unfold RoundsTo Interval.Contains Interval.around
  dsimp only
  rcases Nat.mod_two_eq_zero_or_one m with heven | hone
  -- The ends belong to the interval of an even mantissa.
  · rw [if_pos (decide_eq_true heven)]
    split
    next h =>
      rw [Nat.cast_sub (by omega)]
      push_cast
      exact ⟨hfirst h.1, hhigh⟩
    next =>
      rw [Nat.cast_sub (by omega)]
      push_cast
      exact ⟨hlow, hhigh⟩
  · -- The first mantissa is even.
    have hne : ¬ (m = Binary.leadingBit ∧ Binary.leastExponent < e) := fun h => by
      unfold Binary.leadingBit at h
      omega
    rw [if_neg (by simp [hone]), if_neg hne, Nat.cast_sub (by omega)]
    push_cast
    exact hodd hone

/-- A double rounds to itself. -/
theorem roundsTo_self (hm : 2 ^ 52 ≤ m) (e : Int) : RoundsTo (binaryValue m e) m e := by
  have hvalue : binaryValue m e / 2 ^ (e - 2) = 4 * m := by
    have hpos := two_zpow_pos (e - 2)
    have hsplit : (2 : ℚ) ^ e = 2 ^ (e - 2) * 4 := by
      have hsum := zpow_add₀ (by norm_num : (2 : ℚ) ≠ 0) (e - 2) 2
      rw [sub_add_cancel] at hsum
      rw [hsum]
      norm_num
    unfold binaryValue
    rw [hsplit]
    field_simp
  refine roundsTo_of_bounds hm ?_ ?_ (fun _ => ?_) (fun _ => ⟨?_, ?_⟩) <;> rw [hvalue] <;> linarith

/-- Of two doubles the one with the greater exponent, or else the greater mantissa, is greater. -/
theorem binaryValue_lt_iff (hm : Normal m e) (hm' : Normal m' e') :
    binaryValue m e < binaryValue m' e' ↔ e < e' ∨ e = e' ∧ m < m' := by
  have hself := roundsTo_self hm.low e
  have hself' := roundsTo_self hm'.low e'
  refine ⟨fun hlt => ?_, hself.lt_of_lt hself' hm hm'⟩
  -- The order of the parts is total, so one of the other cases would hold.
  by_contra hnot
  have hle : binaryValue m' e' ≤ binaryValue m e := by
    rcases lt_trichotomy e e' with he | rfl | he
    · exact absurd (.inl he) hnot
    · rcases Nat.lt_trichotomy m m' with hlt | rfl | hlt
      · exact absurd (.inr ⟨rfl, hlt⟩) hnot
      · exact le_refl _
      · exact (hself'.lt_of_lt hself hm' hm (.inr ⟨rfl, hlt⟩)).le
    · exact (hself'.lt_of_lt hself hm' hm (.inl he)).le
  exact absurd hlt (not_lt.2 hle)

/-- A rounded quotient is at most half a unit away from the quotient, and less if it is odd. -/
theorem roundDiv_spec (above : Nat) {below : Nat} (hbelow : 0 < below) :
    2 * (roundDiv above below * below) ≤ 2 * above + below ∧
      2 * above ≤ 2 * (roundDiv above below * below) + below ∧
      (roundDiv above below % 2 = 1 →
        2 * (roundDiv above below * below) < 2 * above + below ∧
        2 * above < 2 * (roundDiv above below * below) + below) := by
  have hsplit : above / below * below + above % below = above := Nat.div_add_mod' above below
  have hrest : above % below < below := Nat.mod_lt _ hbelow
  have hnext : (above / below + 1) * below = above / below * below + below := Nat.succ_mul _ _
  unfold roundDiv Tie.pick
  dsimp only
  -- The rest is less than half, more than half, or half of the divisor.
  split
  · omega
  · split
    · rw [hnext]
      omega
    · split
      · omega
      · rw [hnext]
        omega

/-- The same of the numbers that the quotients stand for. -/
theorem roundDiv_near (above : Nat) {below : Nat} (hbelow : 0 < below) :
    (roundDiv above below : ℚ) - 1 / 2 ≤ above / below ∧
      (above : ℚ) / below ≤ roundDiv above below + 1 / 2 ∧
      (roundDiv above below % 2 = 1 →
        (roundDiv above below : ℚ) - 1 / 2 < above / below ∧
        (above : ℚ) / below < roundDiv above below + 1 / 2) := by
  have hpos : (0 : ℚ) < below := by exact_mod_cast hbelow
  obtain ⟨hup, hdown, hodd⟩ := roundDiv_spec above hbelow
  generalize roundDiv above below = n at hup hdown hodd ⊢
  -- All of it is about whole numbers, so it is brought over to the rationals first.
  have hup' : 2 * ((n : ℚ) * below) ≤ 2 * above + below := by exact_mod_cast hup
  have hdown' : 2 * (above : ℚ) ≤ 2 * (n * below) + below := by exact_mod_cast hdown
  refine ⟨?_, ?_, fun hone => ⟨?_, ?_⟩⟩
  · rw [le_div_iff₀ hpos]
    linarith
  · rw [div_le_iff₀ hpos]
    linarith
  · have hstrict : 2 * ((n : ℚ) * below) < 2 * above + below := by exact_mod_cast (hodd hone).1
    rw [lt_div_iff₀ hpos]
    linarith
  · have hstrict : 2 * (above : ℚ) < 2 * (n * below) + below := by exact_mod_cast (hodd hone).2
    rw [div_lt_iff₀ hpos]
    linarith

/-- What a quotient was rounded to is the double that it rounds to. -/
private theorem roundsTo_of_rounded {above below : Nat} {exponent : Int} (hbelow : 0 < below)
    (hlow : 2 ^ 52 ≤ above / below) (hm : Normal m exponent) (shift : Nat)
    (hshift : shift = surplusBits (above / below))
    (hcases : (m = roundDiv above (below * 2 ^ shift) ∧ exponent = e + shift) ∨
      (roundDiv above (below * 2 ^ shift) = 2 ^ 53 ∧ m = 2 ^ 52 ∧ exponent = e + shift + 1)) :
    RoundsTo (above / below * 2 ^ e) m exponent := by
  have hbounds := (shifted_bounds hlow).1
  rw [Nat.div_div_eq_div_mul] at hbounds
  rw [← hshift] at hbounds
  -- The quotient in units of the last place that is left.
  have hdivisor : 0 < below * 2 ^ shift := Nat.mul_pos hbelow (Nat.two_pow_pos _)
  obtain ⟨hlow', hhigh', hodd'⟩ := roundDiv_near above hdivisor
  have hpos : (0 : ℚ) < below := by exact_mod_cast hbelow
  have hunit := two_zpow_pos e
  obtain ⟨q, hq⟩ : ∃ q : ℚ, q = above / (below * 2 ^ shift : Nat) := ⟨_, rfl⟩
  have hplaces : (above : ℚ) / below * 2 ^ e / 2 ^ (e + shift - 2) = 4 * q := by
    rw [hq, zpow_sub₀ (by norm_num), zpow_add₀ (by norm_num), zpow_natCast]
    push_cast
    field_simp
  have hplaces' : (above : ℚ) / below * 2 ^ e / 2 ^ (e + shift + 1 - 2) = 2 * q := by
    rw [hq, zpow_sub₀ (by norm_num), zpow_add₀ (by norm_num), zpow_add₀ (by norm_num), zpow_natCast]
    push_cast
    field_simp
    norm_num
  have hfloor : (2 : ℚ) ^ 52 ≤ q := by
    rw [hq, le_div_iff₀ (by exact_mod_cast hdivisor)]
    exact_mod_cast (Nat.le_div_iff_mul_le hdivisor).1 hbounds
  rw [← hq] at hlow' hhigh' hodd'
  -- The mantissa is the rounded quotient, or the rounding has filled it up.
  rcases hcases with ⟨hmantissa, rfl⟩ | ⟨hfull, hmantissa, rfl⟩
  · rw [← hmantissa] at hlow' hhigh' hodd'
    refine roundsTo_of_bounds hm.low ?_ ?_ (fun hfirst => ?_) (fun hone => ⟨?_, ?_⟩) <;>
      rw [hplaces]
    · linarith
    · linarith
    · rw [hfirst]
      push_cast
      linarith
    · linarith [(hodd' hone).1]
    · linarith [(hodd' hone).2]
  · -- The greatest mantissa was rounded up.
    rw [hfull] at hlow' hhigh'
    push_cast at hlow' hhigh'
    rw [hmantissa]
    refine roundsTo_of_bounds (Nat.le_refl _) ?_ ?_ (fun _ => ?_)
      (fun hone => absurd hone (by decide))
      <;> rw [hplaces'] <;> push_cast <;> linarith

/-- Rounding a quotient gives the double that it rounds to. Its value is the rounded quotient, in
units of the last place that is left. -/
theorem exists_roundsTo (sign : Sign) {above below : Nat} {e : Int} (hbelow : 0 < below)
    (hlow : 2 ^ 52 ≤ above / below) (hleast : -1074 ≤ e) :
    let shift := surplusBits (above / below)
    ∃ mantissa exponent hpos,
      roundWithAccuracy Format.binary64 sign (above / below) e
          (accuracyOfFraction (above % below) below) = .finite sign mantissa exponent hpos ∧
      Normal mantissa exponent ∧ e + shift ≤ exponent ∧ exponent ≤ e + shift + 1 ∧
      RoundsTo (above / below * 2 ^ e) mantissa exponent ∧
      binaryValue mantissa exponent = roundDiv above (below * 2 ^ shift) * 2 ^ (e + shift) := by
  intro shift
  obtain ⟨m, exponent, hpos, hround, hm, hcases⟩ :=
    roundWithAccuracy_extended sign hbelow hlow hleast
  refine ⟨m, exponent, hpos, hround, hm, by omega, by omega,
    roundsTo_of_rounded hbelow hlow hm shift rfl hcases, ?_⟩
  unfold binaryValue
  rcases hcases with ⟨rfl, rfl⟩ | ⟨hfull, rfl, rfl⟩
  · rfl
  · rw [hfull, zpow_add_one₀ (by norm_num)]
    push_cast
    ring

end Gamebook.Decimal
