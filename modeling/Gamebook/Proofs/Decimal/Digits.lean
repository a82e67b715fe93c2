import Gamebook.Time.Stamp
import Mathlib.Algebra.Group.Nat.Defs

/-!
# Numbers written in digits

What is needed to read a number back: its text consists of digits, begins with a zero only if it is
a zero alone, and stands for the number. Zeros in front of the digits change none of this but the
length.

## Key results

- `takeWhile_isDigit_append` / `dropWhile_isDigit_append`: digits are split off from what follows
- `head_toDigits_ne_zero`: a positive number does not begin with a zero
- `ofDigitChars_padded` / `length_padded`: a padded number has its value and its length
-/

namespace Gamebook.Decimal

/-- Whether a text does not go on with a digit. -/
def NoDigit (rest : List Char) : Prop := ∀ c ∈ rest.head?, c.isDigit = false

/-- The empty text begins with no digit. -/
theorem noDigit_nil : NoDigit [] := fun _ h => by cases h

/-- A text that begins with another character begins with no digit. -/
theorem noDigit_cons {c : Char} (hc : c.isDigit = false) (rest : List Char) :
    NoDigit (c :: rest) := fun _ h => by
  obtain rfl : c = _ := by simpa using h
  exact hc

/-- Digits are taken up to where they end. -/
theorem takeWhile_isDigit_append {digits rest : List Char} (hdigits : ∀ c ∈ digits, c.isDigit)
    (hrest : NoDigit rest) : (digits ++ rest).takeWhile Char.isDigit = digits := by
  rw [List.takeWhile_append_of_pos hdigits]
  cases rest with
  | nil => simp
  | cons c rest =>
    have hc : ¬ c.isDigit := by simp [hrest c rfl]
    rw [List.takeWhile_cons_of_neg hc, List.append_nil]

/-- What is left after the digits. -/
theorem dropWhile_isDigit_append {digits rest : List Char} (hdigits : ∀ c ∈ digits, c.isDigit)
    (hrest : NoDigit rest) : (digits ++ rest).dropWhile Char.isDigit = rest := by
  rw [List.dropWhile_append_of_pos hdigits]
  cases rest with
  | nil => rfl
  | cons c rest =>
    have hc : ¬ c.isDigit := by simp [hrest c rfl]
    exact List.dropWhile_cons_of_neg hc

/-- The digits of a number are digits. -/
theorem isDigit_of_mem_toDigits {n : Nat} : ∀ c ∈ Nat.toDigits 10 n, c.isDigit :=
  fun _ hc => Nat.isDigit_of_mem_toDigits (by decide) (by decide) hc

/-- A positive number does not begin with a zero. -/
theorem head_toDigits_ne_zero {n : Nat} (hn : 0 < n) :
    ∃ c rest, Nat.toDigits 10 n = c :: rest ∧ c ≠ '0' ∧ c.isDigit := by
  induction n using Nat.strongRecOn with
  | ind n ih =>
    -- A number of one digit is that digit, which is no zero.
    by_cases hlt : n < 10
    · refine ⟨n.digitChar, [], Nat.toDigits_of_lt_base hlt, fun h => ?_, ?_⟩
      · rw [Nat.digitChar_eq_zero] at h
        omega
      · simp [Nat.isDigit_digitChar, hlt]
    · -- The first digit is that of the number without its last one.
      obtain ⟨c, rest, hdigits, hc, hdigit⟩ := ih (n / 10) (by omega) (by omega)
      refine ⟨c, rest ++ [(n % 10).digitChar], ?_, hc, hdigit⟩
      rw [Nat.toDigits_of_base_le (by decide) (by omega), hdigits]
      rfl

end Gamebook.Decimal

namespace Gamebook.Stamp

open Gamebook.Decimal

/-- So are those of a number that is filled up with zeros. -/
theorem isDigit_of_mem_padded {size n : Nat} : ∀ c ∈ padded size n, c.isDigit := by
  intro c hc
  rcases List.mem_append.1 hc with hc | hc
  · rw [List.eq_of_mem_replicate hc]
    decide
  · exact isDigit_of_mem_toDigits c hc

/-- A padded number has its value. -/
theorem ofDigitChars_padded (size n : Nat) : Nat.ofDigitChars 10 (padded size n) 0 = n := by
  unfold padded
  rw [Nat.ofDigitChars_append, Nat.ofDigitChars_replicate_zero, Nat.mul_zero]
  exact Nat.ofDigitChars_ten_toDigits

/-- A padded number that fits has the given length. -/
theorem length_padded {size n : Nat} (hsize : 0 < size) (hn : n < 10 ^ size) :
    (padded size n).length = size := by
  have hlength := (Nat.length_toDigits_le_iff (b := 10) (by decide) hsize).2 hn
  unfold padded
  rw [List.length_append, List.length_replicate]
  omega

/-- A number that is filled up with zeros has a digit at least. -/
theorem padded_ne_nil (size n : Nat) : padded size n ≠ [] := by
  unfold padded
  have h := Nat.toDigits_ne_nil (n := n) (b := 10)
  simp [h]

end Gamebook.Stamp
