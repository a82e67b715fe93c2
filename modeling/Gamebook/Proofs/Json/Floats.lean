import Gamebook.Proofs.Decimal.Literals
import Gamebook.Proofs.Decimal.Products
import Gamebook.Proofs.Json.ReadBack

/-!
# Reading back doubles

The text of a double is a number with a point or an exponent, so what is read from it is a double
again. It need not be the same one.

## Key results

- `ofScientific`: the parts in which a decimal number is written
- `magnitude?_ofScientific`: the literal that they make up
- `exists_number?`: what the text of a double is read as
- `answers_any_float` / `answers_any_notFinite`: what a reader makes of a double
-/

namespace Gamebook

open Json (Gap Closes)
open Reading

namespace Json

open Decimal

namespace NumberText

/-- The parts in which a decimal number is written. -/
def ofScientific (negative : Bool) (number : Scientific) : NumberText :=
  let digits := digitsOf number.digits
  let leading := number.exponent + digits.length - 1
  if -5 ≤ leading ∧ leading < 16 then
    if 0 ≤ number.exponent then
      { negative, whole := digits ++ List.replicate number.exponent.toNat '0', fraction := ['0']
        exponent := none }
    else
      let places := (-number.exponent).toNat
      if places < digits.length then
        { negative, whole := digits.take (digits.length - places)
          fraction := digits.drop (digits.length - places), exponent := none }
      else
        { negative, whole := ['0']
          fraction := List.replicate (places - digits.length) '0' ++ digits, exponent := none }
  else
    { negative, whole := digits.take 1, fraction := digits.drop 1
      exponent := some (decide (leading < 0), digitsOf leading.natAbs) }

/-- The sign is written as it is told. -/
theorem negative_ofScientific (negative : Bool) (number : Scientific) :
    (ofScientific negative number).negative = negative := by
  unfold ofScientific
  dsimp only
  split
  · split
    · rfl
    · split <;> rfl
  · rfl

/-- The double that a number stands for, its sign aside. -/
def magnitude? (t : NumberText) : Option Float := literal? t.whole t.fraction t.exponent

/-- These parts make up the text. -/
theorem scientific_eq (negative : Bool) (number : Scientific) :
    let t := ofScientific negative number
    floatSpelling.scientific number = t.whole ++ (t.fractionPart ++ t.exponentPart) := by
  have hne : digitsOf number.digits ≠ [] := Nat.toDigits_ne_nil
  obtain ⟨c, digits, hdigits⟩ := List.exists_cons_of_ne_nil hne
  unfold Spelling.scientific ofScientific floatSpelling
  dsimp only
  split
  next hpositional =>
    unfold positionalText fractionPart exponentPart
    split
    next => simp
    next hexponent =>
      dsimp only
      split
      -- The point stands among the digits, and some of them come after it.
      next hplaces =>
        have hfraction : (digitsOf number.digits).drop
            ((digitsOf number.digits).length - (-number.exponent).toNat) ≠ [] := by
          rw [ne_eq, List.drop_eq_nil_iff]
          omega
        simp [hfraction]
      next => simp [hne]
  next =>
    unfold exponentText fractionPart exponentPart
    rw [hdigits]
    cases digits with
    | nil => simp
    | cons d digits => simp

/-- These parts can be told apart. -/
theorem wellFormed_ofScientific (negative : Bool) {number : Scientific} (hpos : 0 < number.digits) :
    (ofScientific negative number).WellFormed := by
  have hne : digitsOf number.digits ≠ [] := Nat.toDigits_ne_nil
  have hdigit : ∀ c ∈ digitsOf number.digits, c.isDigit := isDigit_of_mem_toDigits
  have hzeros : ∀ n, ∀ c ∈ List.replicate n '0', c.isDigit := fun n c hc => by
    rw [List.eq_of_mem_replicate hc]
    decide
  -- No positive number begins with a zero.
  obtain ⟨c, digits, hdigits, hc, -⟩ := head_toDigits_ne_zero hpos
  have hhead : ∀ rest, ∀ more : List Char, digitsOf number.digits ++ more ≠ '0' :: rest := by
    intro rest more h
    unfold digitsOf at h
    rw [hdigits] at h
    exact hc (List.cons.inj h).1
  unfold ofScientific
  dsimp only
  split
  next =>
    -- The digits stay in their order, wherever the point is put among them.
    split
    next =>
      refine ⟨by simp [hne], fun c hc => ?_, fun rest h => absurd h (hhead rest _), fun c hc => ?_,
        fun _ _ h => by cases h⟩
      · rcases List.mem_append.1 hc with hc | hc
        · exact hdigit c hc
        · exact hzeros _ c hc
      · rw [List.mem_singleton.1 hc]
        decide
    next =>
      split
      next hplaces =>
        refine ⟨?_, fun c hc => hdigit c (List.mem_of_mem_take hc), fun rest h => ?_,
          fun c hc => hdigit c (List.mem_of_mem_drop hc), fun _ _ h => by cases h⟩
        · rw [ne_eq, List.take_eq_nil_iff]
          simp only [hne, or_false]
          omega
        · refine absurd ?_ (hhead (rest ++ (digitsOf number.digits).drop
            ((digitsOf number.digits).length - (-number.exponent).toNat)) [])
          rw [List.append_nil, ← List.cons_append, ← h, List.take_append_drop]
      next =>
        refine ⟨by simp, fun c hc => ?_, fun rest h => (List.cons.inj h).2.symm, fun c hc => ?_,
          fun _ _ h => by cases h⟩
        · rw [List.mem_singleton.1 hc]
          decide
        · rcases List.mem_append.1 hc with hc | hc
          · exact hzeros _ c hc
          · exact hdigit c hc
  next =>
    refine ⟨?_, fun c hc => hdigit c (List.mem_of_mem_take hc), fun rest h => ?_,
      fun c hc => hdigit c (List.mem_of_mem_drop hc), fun _ _ h => ?_⟩
    · rw [ne_eq, List.take_eq_nil_iff]
      simp [hne]
    · refine absurd ?_ (hhead (rest ++ (digitsOf number.digits).drop 1) [])
      rw [List.append_nil, ← List.cons_append, ← h, List.take_append_drop]
    · obtain ⟨-, rfl⟩ := Prod.mk.inj (Option.some.inj h)
      exact ⟨Nat.toDigits_ne_nil, isDigit_of_mem_toDigits⟩

/-- What the parts of a number are read as: its digits and its exponent, unless the number is
written as a whole one with a zero after the point, which counts as a digit. -/
theorem magnitude?_ofScientific (negative : Bool) {number : Scientific} (hpos : 0 < number.digits)
    (hdigits : number.digits < 2 ^ 64) (hlow : -324 ≤ number.exponent)
    (hhigh : number.exponent ≤ 309) :
    ((ofScientific negative number).magnitude? = scaled? number.digits number.exponent ∧
      (0 ≤ number.exponent → 10 ^ 16 ≤ number.digits * 10 ^ number.exponent.toNat)) ∨
    (0 ≤ number.exponent ∧ number.digits * 10 ^ number.exponent.toNat < 10 ^ 16 ∧
      (ofScientific negative number).magnitude? =
        scaled? (number.digits * 10 ^ (number.exponent.toNat + 1)) (-1)) := by
  have hvalue : Nat.ofDigitChars 10 (digitsOf number.digits) 0 = number.digits :=
    Nat.ofDigitChars_ten_toDigits
  obtain ⟨hsome, hlong, hlength⟩ := digitsOf_bounds hpos
  have hfit : number.digits ≤ maxSignificand := Nat.le_of_lt_succ hdigits
  unfold magnitude? ofScientific
  dsimp only
  generalize digitsOf number.digits = digits at hvalue hsome hlong hlength ⊢
  split
  next hpositional =>
    split
    next hexponent =>
      -- With a whole number a point and a zero are written, which read as one place more.
      right
      obtain ⟨j, hj⟩ := Int.eq_ofNat_of_zero_le hexponent
      rw [hj] at hpositional ⊢
      rw [Int.toNat_natCast]
      have hsmall : number.digits * 10 ^ j < 10 ^ 16 := by
        calc number.digits * 10 ^ j < 10 ^ digits.length * 10 ^ j :=
              Nat.mul_lt_mul_of_pos_right hlength (Nat.pow_pos (by decide))
          _ = 10 ^ (digits.length + j) := (Nat.pow_add ..).symm
          _ ≤ 10 ^ 16 := Nat.pow_le_pow_right (by decide) (by omega)
      -- There is room for the zero after the point too.
      refine ⟨by omega, hsmall, literal?_zeros hvalue j ?_⟩
      unfold maxSignificand maxUInt64
      rw [Nat.pow_succ, ← Nat.mul_assoc]
      omega
    next hexponent =>
      left
      obtain ⟨places, hplaces⟩ : ∃ places : Nat, number.exponent = -places :=
        ⟨(-number.exponent).toNat, by omega⟩
      refine ⟨?_, fun h => absurd h hexponent⟩
      rw [hplaces, Int.neg_neg, Int.toNat_natCast]
      split
      next hamong => exact literal?_among hvalue hfit hamong.le
      next hafter => exact literal?_after hvalue hfit (not_lt.1 hafter)
  next hfar =>
    left
    -- So few digits leave the exponent far from where it would be cut off.
    have hshort : digits.length ≤ 20 := by
      by_contra hlonger
      have hpower : 10 ^ 20 ≤ 10 ^ (digits.length - 1) :=
        Nat.pow_le_pow_right (by decide) (by omega)
      omega
    constructor
    · apply literal?_leading hvalue hfit hsome
      unfold maxExponent
      omega
    · intro hexponent
      calc 10 ^ 16 ≤ 10 ^ (digits.length - 1 + number.exponent.toNat) :=
            Nat.pow_le_pow_right (by decide) (by omega)
        _ = 10 ^ (digits.length - 1) * 10 ^ number.exponent.toNat := Nat.pow_add ..
        _ ≤ number.digits * 10 ^ number.exponent.toNat := Nat.mul_le_mul_right _ hlong

/-- Such a number has a point or an exponent, so that it is read as a double. -/
theorem number?_ofScientific (negative : Bool) (number : Scientific) :
    (ofScientific negative number).number? = (ofScientific negative number).magnitude?.map fun y =>
      .float (if negative then -y else y) := by
  have hnegative := negative_ofScientific negative number
  obtain ⟨t, ht⟩ : ∃ t, t = ofScientific negative number := ⟨_, rfl⟩
  rw [← ht] at hnegative ⊢
  -- There is a point or a power of ten, so what is read is a float.
  have hpoint : ¬ (t.fraction.isEmpty ∧ t.exponent.isNone) := by
    have hne : digitsOf number.digits ≠ [] := Nat.toDigits_ne_nil
    rw [ht]
    unfold ofScientific
    dsimp only
    split
    · split
      · simp
      · split
        · simp only [List.isEmpty_iff, List.drop_eq_nil_iff, Option.isNone_none, and_true]
          omega
        · simp [hne]
    · simp
  unfold number? magnitude?
  dsimp only
  rw [if_neg (fun h => hpoint ⟨h.1, h.2.1⟩), if_neg (fun h => hpoint ⟨h.1, h.2.1⟩), hnegative]

variable {m : Nat} {e : Int}

/-- What is picked for a double is read as some double. -/
theorem isSome_magnitude?_shortest (negative : Bool) (hpos : 0 < m) (hm : m < 2 ^ 53)
    (hleast : -1074 ≤ e) (hgreatest : e ≤ 971) :
    (ofScientific negative (shortest .toEven m e)).magnitude?.isSome := by
  obtain ⟨-, hlow, hhigh, -⟩ := shortest_spec .toEven hpos hleast hgreatest
  obtain ⟨hdigits, hmost⟩ := digits_shortest .toEven hpos hleast hgreatest
  rcases magnitude?_ofScientific negative hdigits (by omega) hlow hhigh with
    ⟨hread, -⟩ | ⟨-, -, hread⟩
  · rw [hread]
    exact isSome_scaled?_shortest hpos hm hleast hgreatest
  · rw [hread]
    rfl

/-- What is picked for the double nearest to a number with few digits is read as this double. -/
theorem magnitude?_shortest (negative : Bool) {d k : Nat} (hpos : 0 < m) (hd : d < 10 ^ fewDigits)
    (hk : k ≤ maxExactPower) (hm : Normal m e) (hgreatest : e ≤ 971)
    (hround : RoundsTo (d / 10 ^ k) m e) :
    (ofScientific negative (shortest .toEven m e)).magnitude? =
      some (.ofModel (.pack (.finite .positive m e hpos))) := by
  obtain ⟨-, hlow, hhigh, -⟩ := shortest_spec .toEven hpos hm.least hgreatest
  obtain ⟨hdigits, hmost⟩ := digits_shortest .toEven hpos hm.least hgreatest
  obtain ⟨hplaces, hvalue⟩ :=
    shortest_of_roundsTo .toEven hd (hk.trans (by decide)) hm hgreatest hround
  have hread := magnitude?_ofScientific negative hdigits (by have := hm.high; omega) hlow hhigh
  generalize shortest .toEven m e = number at hdigits hplaces hvalue hread ⊢
  have hfew : (d : ℚ) < 10 ^ 15 := by exact_mod_cast hd
  have hless : (d : ℚ) / 10 ^ k ≤ d :=
    div_le_self (Nat.cast_nonneg d) (one_le_pow₀ (by norm_num))
  rcases hread with ⟨hread, hlarge⟩ | ⟨hwhole, -, hread⟩
  · -- A number with few digits is not so large that it is written with a power of ten.
    have hneg : number.exponent < 0 := by
      by_contra hnonneg
      obtain ⟨j, hj⟩ := Int.eq_ofNat_of_zero_le (not_lt.1 hnonneg)
      have hfar := hlarge (not_lt.1 hnonneg)
      rw [hj, Int.toNat_natCast] at hfar
      rw [hj, zpow_natCast] at hvalue
      have hfar' : (10 : ℚ) ^ 16 ≤ number.digits * 10 ^ j := by exact_mod_cast hfar
      linarith
    obtain ⟨j, hj⟩ : ∃ j : Nat, number.exponent = -j := ⟨(-number.exponent).toNat, by omega⟩
    rw [hj, zpow_neg, zpow_natCast, ← div_eq_mul_inv] at hvalue
    rw [hread, hj]
    exact scaled?_places hdigits hd (by omega) (by omega) hk hvalue hm hround
  -- A whole number is written with a zero after the point, which is the same number.
  · obtain ⟨j, hj⟩ := Int.eq_ofNat_of_zero_le hwhole
    rw [hj, Int.toNat_natCast, Nat.pow_succ, ← Nat.mul_assoc] at hread
    rw [hj, zpow_natCast] at hvalue
    have hsame : ((number.digits * 10 ^ j : Nat) : ℚ) = d / 10 ^ k := by
      rw [← hvalue]
      push_cast
      rfl
    have hsmall : number.digits * 10 ^ j < 10 ^ fewDigits := by
      have hcast : ((number.digits * 10 ^ j : Nat) : ℚ) < (10 ^ 15 : Nat) := by
        rw [hsame]
        push_cast
        linarith
      exact_mod_cast hcast
    rw [hread]
    apply scaled?_whole (Nat.mul_pos hdigits (Nat.pow_pos (by decide))) hsmall hm
    rw [hsame]
    exact hround

/-! ## Doubles -/

/-- The decimal number that a double is written as. -/
def decimalOf (m : Nat) (e : Int) : Scientific := if m = 0 then ⟨0, 0⟩ else shortest .toEven m e

/-- A finite double is written as a number. -/
theorem text_ofScientific {x : Float} {negative : Bool}
    (hx : Binary.ofFloat x = .finite negative m e) :
    floatSpelling.text x = (ofScientific negative (decimalOf m e)).text := by
  have hsigned : (ofScientific negative (decimalOf m e)).text =
      if negative then '-' :: floatSpelling.scientific (decimalOf m e)
      else floatSpelling.scientific (decimalOf m e) := by
    unfold text
    rw [negative_ofScientific, scientific_eq negative]
    cases negative <;> rfl
  -- Zero has a spelling of its own, which is that of its only digit.
  have hmagnitude : (if m = 0 then positionalText floatSpelling.pointZero ['0'] 0
      else floatSpelling.scientific (shortest .toEven m e)) =
      floatSpelling.scientific (decimalOf m e) := by
    unfold decimalOf
    split
    · rfl
    · rfl
  rw [hsigned, ← hmagnitude]
  unfold Spelling.text
  rw [hx]
  rfl

/-- A zero is written as one, with its sign. -/
private theorem decimalOf_zero (negative : Bool) (e : Int) :
    ofScientific negative (decimalOf 0 e) =
      { negative, whole := ['0'], fraction := ['0'], exponent := none } := by
  unfold decimalOf ofScientific digitsOf
  rw [if_pos rfl, Nat.toDigits_zero]
  rfl

/-- And it is read as one. -/
private theorem number?_zero (negative : Bool) (e : Int) :
    (ofScientific negative (decimalOf 0 e)).WellFormed ∧
      (ofScientific negative (decimalOf 0 e)).number? =
        some (.float (if negative then -0 else 0)) := by
  have hmagnitude : literal? ['0'] ['0'] none = some 0 := by decide +kernel
  have hdigit : ∀ c ∈ ['0'], c.isDigit := fun c hc => by
    rw [List.mem_singleton.1 hc]
    decide
  rw [number?_ofScientific, decimalOf_zero]
  refine ⟨⟨List.cons_ne_nil _ _, hdigit, fun rest h => (List.cons.inj h).2.symm, hdigit,
    fun _ _ h => absurd h.symm (Option.some_ne_none _)⟩, ?_⟩
  exact congrArg (Option.map _) hmagnitude

/-- This number is read as some double, which is the same one if it stands for a number with few
digits. -/
theorem exists_number? {x : Float} {negative : Bool}
    (hx : Binary.ofFloat x = .finite negative m e) :
    (ofScientific negative (decimalOf m e)).WellFormed ∧
    ∃ y, (ofScientific negative (decimalOf m e)).number? = some (.float y) ∧
      (FewDigits x → y = x) := by
  obtain ⟨hm, hleast, hgreatest⟩ := Binary.ofFloat_bounds hx
  rcases Nat.eq_zero_or_pos m with rfl | hpos
  · obtain ⟨hwell, hnumber⟩ := number?_zero negative e
    -- A zero is written as one, and of the doubles with few digits only a zero is read from it.
    refine ⟨hwell, if negative then -0 else 0, hnumber, fun hfew => ?_⟩
    rcases hfew.zero_or_nearest with rfl | rfl | ⟨sign, m, e, hm, d, k, rfl, hnormal, he, -⟩
    · obtain ⟨rfl, -⟩ := Binary.finite.inj hx
      rfl
    · obtain ⟨rfl, -⟩ := Binary.finite.inj hx
      rfl
    · rw [Binary.ofFloat_pack sign hm hnormal he] at hx
      obtain ⟨-, rfl, -⟩ := Binary.finite.inj hx
      exact absurd hm (lt_irrefl 0)
  · have hdecimal : decimalOf m e = shortest .toEven m e := if_neg (by omega)
    rw [hdecimal]
    refine ⟨wellFormed_ofScientific negative (digits_shortest .toEven hpos hleast hgreatest).1, ?_⟩
    obtain ⟨y, hy⟩ :=
      Option.isSome_iff_exists.1 (isSome_magnitude?_shortest negative hpos hm hleast hgreatest)
    -- A zero has no digits, so the double is the nearest one to a number with few of them.
    refine ⟨if negative then -y else y, ?_, fun hfew => ?_⟩
    · rw [number?_ofScientific, hy]
      rfl
    · rcases hfew.zero_or_nearest with
        rfl | rfl | ⟨sign, m', e', hpos', d, k, rfl, hnormal, he, hd, hk, hround⟩
      · obtain ⟨-, rfl, -⟩ := Binary.finite.inj hx
        exact absurd hpos (lt_irrefl 0)
      · obtain ⟨-, rfl, -⟩ := Binary.finite.inj hx
        exact absurd hpos (lt_irrefl 0)
      · rw [Binary.ofFloat_pack sign hpos' hnormal he] at hx
        obtain ⟨rfl, rfl, rfl⟩ := Binary.finite.inj hx
        have hnearest := hy.symm.trans
          (magnitude?_shortest (sign == .negative) hpos' hd hk hnormal he hround)
        obtain rfl := Option.some.inj hnearest
        cases sign with
        | positive => rfl
        | negative => exact Binary.neg_pack hpos' hnormal he

end NumberText

end Json

namespace Form

open Json Decimal

/-- A finite double is answered with a double, which is the same one if it stands for a number with
few digits. -/
theorem answers_any_float {x : Float} (hx : isFinite x = true) :
    ∃ y, (FewDigits x → y = x) ∧ ∀ depth, any.Answers depth (.float x) (.ok (.float y)) := by
  obtain ⟨negative, m, e, hparts⟩ : ∃ negative m e, Binary.ofFloat x = .finite negative m e := by
    unfold isFinite at hx
    cases hbinary : Binary.ofFloat x with
    | finite negative m e => exact ⟨negative, m, e, rfl⟩
    | _ =>
      rw [hbinary] at hx
      cases hx
  -- The text is that of a number, which is read as some double.
  obtain ⟨hwell, y, hnumber, hsame⟩ := NumberText.exists_number? hparts
  obtain ⟨c, text, htext, hc⟩ := NumberText.text_head hwell
  have hlaidOut : ∀ level, laidOut level (.float x) = c :: text := fun level =>
    (NumberText.text_ofScientific hparts).trans htext
  refine ⟨y, hsame, fun depth => ⟨fun level => ⟨c, text, hlaidOut level, opensValue_of_number hc⟩,
    fun level gap rest hgap hrest => ?_⟩⟩
  have hread := NumberText.number_text hwell hnumber hrest
  rw [htext, List.cons_append] at hread
  rw [hlaidOut, List.cons_append]
  exact (value_number depth hgap hc _).trans (map_ok _ hread)

/-- A double that is not finite is answered with nothing. -/
theorem answers_any_notFinite {x : Float} (hx : isFinite x = false) (depth : Nat) :
    any.Answers depth (.float x) (.ok .null) := by
  have htext : ∀ level, laidOut level (.float x) = ['n', 'u', 'l', 'l'] := by
    intro level
    show floatSpelling.text x = _
    unfold isFinite at hx
    unfold Spelling.text
    -- Of infinities and of what is no number nothing is told.
    cases hbinary : Binary.ofFloat x with
    | nan => rfl
    | infinite negative => cases negative <;> rfl
    | finite negative m e =>
      rw [hbinary] at hx
      cases hx
  refine ⟨fun level => ⟨_, _, htext level, by decide⟩, fun level gap rest hgap _ => ?_⟩
  rw [htext]
  show Json.value depth (gap ++ 'n' :: (['u', 'l', 'l'] ++ rest)) = _
  unfold Json.value
  rw [bind_ok _ (Json.next?_gap hgap (by decide) _)]
  exact Json.word_ok 'n' ['u', 'l', 'l'] rest Json.null

end Form

end Gamebook
