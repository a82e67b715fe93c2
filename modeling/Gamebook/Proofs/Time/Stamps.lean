import Gamebook.Proofs.Decimal.Digits
import Gamebook.Proofs.Text.Reading
import Gamebook.Proofs.Time.Calendar

/-!
# Reading back time stamps

The stamp of an instant that lies in no leap second is read back as the instant: each part is
written in the digits that the reader takes, and the date of a day names the day again. A leap
second has a stamp of its own only at the end of a minute; elsewhere its stamp is that of the next
second.

## Key results

- `Instant.stamped`: the instant that the stamp of an instant names
- `signedNumber_yearText`: years of any size are read back
- `fraction_fractionText`: fractions are read back from three, six or nine digits, or none
- `parts_write`: the parts of a stamp
- `read_write_stamped`: stamps are read as the instants that they name
-/

namespace Gamebook

namespace Instant

/-- The instant that the stamp of an instant names. The leap second after a second that does not end
a minute is the next second there. -/
def stamped (t : Instant) : Instant :=
  if h : t.isLeap = true ∧ t.second % 60 ≠ 59 then
    { day := t.day
      second := t.second + 1
      nano := t.nano - 1000000000
      day_ge := t.day_ge
      day_le := t.day_le
      second_lt := by
        have hlt := t.second_lt
        omega
      nano_lt := Nat.lt_of_le_of_lt (Nat.sub_le _ _) t.nano_lt }
  else t

/-- Outside leap seconds a stamp names its own instant. -/
theorem stamped_of_not_leap (t : Instant) (ht : t.isLeap = false) : t.stamped = t :=
  dif_neg fun h => Bool.false_ne_true (ht.symm.trans h.1)

/-- So it does at the end of a minute. -/
theorem stamped_of_last (t : Instant) (ht : t.second % 60 = 59) : t.stamped = t :=
  dif_neg fun h => h.2 ht

/-- Any other leap second has the stamp of the next second. -/
theorem stamped_of_leap (t : Instant) (hleap : t.isLeap = true) (ht : t.second % 60 ≠ 59) :
    t.stamped.day = t.day ∧ t.stamped.second = t.second + 1 ∧
      t.stamped.nano = t.nano - 1000000000 := by
  unfold stamped
  rw [dif_pos ⟨hleap, ht⟩]
  exact ⟨rfl, rfl, rfl⟩

end Instant

namespace Stamp

open Decimal Reading

variable {rest : List Char}

/-! ## Blanks -/

/-- No digit is blank. -/
theorem isBlank_of_isDigit {c : Char} (hc : c.isDigit) : Text.isBlank c = false := by
  have hlow : 48 ≤ c.toNat := by
    simp only [Char.isDigit, Bool.and_eq_true, decide_eq_true_eq] at hc
    exact hc.1
  have hhigh : c.toNat ≤ 57 := by
    simp only [Char.isDigit, Bool.and_eq_true, decide_eq_true_eq] at hc
    exact hc.2
  -- No border of the blanks lies among the digits.
  have hall : ∀ n ≤ 57, 48 ≤ n → Text.blanks.borders.countP (· ≤ n) % 2 ≠ 1 := by decide
  unfold Text.isBlank Text.CharSet.contains
  exact decide_eq_false (hall c.toNat hhigh hlow)

/-- There is nothing to pass over before a character that is not blank. -/
theorem skipBlanks_cons {c : Char} (hc : Text.isBlank c = false) (rest : List Char) :
    skipBlanks (c :: rest) = .ok ((), c :: rest) := by
  have hdrop : Text.trimStart (c :: rest) = c :: rest := by
    unfold Text.trimStart
    exact List.dropWhile_cons_of_neg (by simp [hc])
  show Except.ok ((), Text.trimStart (c :: rest)) = _
  rw [hdrop]

/-- A padded number begins with a digit. -/
theorem padded_head (size n : Nat) :
    ∃ c digits, padded size n = c :: digits ∧ c.isDigit := by
  obtain ⟨c, digits, htext⟩ := List.exists_cons_of_ne_nil (padded_ne_nil size n)
  exact ⟨c, digits, htext, isDigit_of_mem_padded c (htext ▸ List.mem_cons_self)⟩

/-- There is nothing to pass over before a padded number. -/
theorem skipBlanks_padded (size n : Nat) (rest : List Char) :
    skipBlanks (padded size n ++ rest) = .ok ((), padded size n ++ rest) := by
  obtain ⟨c, digits, htext, hc⟩ := padded_head size n
  rw [htext]
  exact skipBlanks_cons (isBlank_of_isDigit hc) _

/-! ## Numbers -/

/-- As many digits as may be read are read, if no more follow or there is no room for more. -/
private theorem digits_some {text : List Char} {limit : Nat} (rest : List Char) (hne : text ≠ [])
    (hdigits : ∀ c ∈ text, c.isDigit) (hlength : text.length ≤ limit)
    (hend : text.length = limit ∨ NoDigit rest) :
    digits (some limit) (text ++ rest) = .ok (text, rest) := by
  have htaken : ((text ++ rest).take limit).takeWhile Char.isDigit = text := by
    rw [List.take_append, List.take_of_length_le hlength]
    refine takeWhile_isDigit_append hdigits ?_
    -- No digit is in reach after the text: there is no room for it, or there is none.
    rcases hend with hfull | hrest
    · rw [hfull, Nat.sub_self, List.take_zero]
      exact noDigit_nil
    · intro c hc
      cases hmore : limit - text.length with
      | zero => rw [hmore] at hc; cases hc
      | succ n =>
        rw [hmore] at hc
        cases rest with
        | nil => cases hc
        | cons d rest => exact hrest c hc
  have hempty : text.isEmpty = false := by simpa using hne
  unfold digits
  rw [bind_ok _ (get_ok _)]
  simp only [htaken, hempty, Bool.false_eq_true, ↓reduceIte, List.drop_left]
  rfl

/-- Without a limit all digits are read. -/
private theorem digits_none {text : List Char} (hne : text ≠ [])
    (hdigits : ∀ c ∈ text, c.isDigit) (hrest : NoDigit rest) :
    digits none (text ++ rest) = .ok (text, rest) := by
  have htaken := takeWhile_isDigit_append hdigits hrest
  have hempty : text.isEmpty = false := by simpa using hne
  unfold digits
  rw [bind_ok _ (get_ok _)]
  simp only [htaken, hempty, Bool.false_eq_true, ↓reduceIte, List.drop_left]
  rfl

/-- A padded number is read back from as many digits as it was given. -/
private theorem number_padded (size n : Nat) (hsize : 0 < size) (hn : n < 10 ^ size)
    (rest : List Char) : number (some size) (padded size n ++ rest) = .ok (n, rest) := by
  have hlength := length_padded hsize hn
  have hread := digits_some rest (padded_ne_nil size n) isDigit_of_mem_padded
    (Nat.le_of_eq hlength) (.inl hlength)
  unfold number
  rw [bind_ok _ hread, ofDigitChars_padded]
  rfl

/-- Without a limit a padded number of any size is read back. -/
private theorem number_padded_none (size n : Nat) (hrest : NoDigit rest) :
    number none (padded size n ++ rest) = .ok (n, rest) := by
  have hread := digits_none (padded_ne_nil size n) isDigit_of_mem_padded hrest
  unfold number
  rw [bind_ok _ hread, ofDigitChars_padded]
  rfl

/-- A number of two digits within its bounds is read back. -/
private theorem field_padded {least greatest n : Nat} (hleast : least ≤ n)
    (hgreatest : n ≤ greatest) (hn : n < 100) (rest : List Char) :
    field least greatest (padded 2 n ++ rest) = .ok (n, rest) := by
  have hbounds : ¬ (n < least ∨ greatest < n) := by omega
  unfold field
  rw [bind_ok _ (skipBlanks_padded 2 n rest), bind_ok _ (number_padded 2 n (by decide) hn rest)]
  simp only [if_neg hbounds]
  rfl

/-- A separator that is there is read. -/
theorem separator_cons {c : Char} (hc : Text.isBlank c = false) (rest : List Char) :
    separator c (c :: rest) = .ok ((), rest) := by
  unfold separator
  rw [bind_ok _ (skipBlanks_cons hc rest), bind_ok _ (get_ok _)]
  simp only [↓reduceIte]
  exact set_ok _ rest

/-! ## The parts of a stamp -/

/-- Years of any size are read back, if no digit follows. -/
private theorem signedNumber_yearText (y : Int) (hrest : NoDigit rest) :
    signedNumber (yearText y ++ rest) = .ok (y, rest) := by
  unfold yearText signedNumber
  rw [bind_ok _ (get_ok _)]
  by_cases hplain : 0 ≤ y ∧ y ≤ 9999
  · -- Four digits and no sign.
    have hnumber := number_padded 4 y.toNat (by decide) (by omega) rest
    have hvalue : (y.toNat : Int) = y := by omega
    obtain ⟨c, digits, htext, hc⟩ := padded_head 4 y.toNat
    have hminus : c ≠ '-' := fun h => absurd (h ▸ hc) (by decide)
    have hplus : c ≠ '+' := fun h => absurd (h ▸ hc) (by decide)
    have hread := map_ok (Nat.cast : Nat → Int) hnumber
    rw [hvalue] at hread
    simp only [if_pos hplain, htext, List.cons_append] at hread ⊢
    simpa [hminus, hplus] using hread
  · -- A sign, after which any number of digits is read.
    have hnumber := number_padded_none 4 y.natAbs hrest
    simp only [if_neg hplain, List.cons_append]
    by_cases hneg : y < 0
    · have hvalue : -(y.natAbs : Int) = y := by omega
      simp only [if_pos hneg]
      rw [bind_ok _ (set_ok _ _), bind_ok _ hnumber]
      show Except.ok (-(y.natAbs : Int), rest) = _
      rw [hvalue]
    · have hvalue : (y.natAbs : Int) = y := by omega
      simp only [if_neg hneg]
      rw [bind_ok _ (set_ok _ _), bind_ok _ hnumber]
      show Except.ok ((y.natAbs : Int), rest) = _
      rw [hvalue]

/-- A year begins with a digit or a sign. -/
private theorem yearText_head (y : Int) :
    ∃ c text, yearText y = c :: text ∧ Text.isBlank c = false := by
  unfold yearText
  split
  · obtain ⟨c, digits, htext, hc⟩ := padded_head 4 y.toNat
    exact ⟨c, digits, htext, isBlank_of_isDigit hc⟩
  · refine ⟨_, _, rfl, ?_⟩
    split <;> decide

/-- The years that instants can have are read back. -/
private theorem year_yearText {y : Int} (hlow : -262143 ≤ y) (hhigh : y ≤ 262142)
    (hrest : NoDigit rest) : year (yearText y ++ rest) = .ok (y, rest) := by
  have hnumber := signedNumber_yearText y hrest
  have hbounds : ¬ (y < -2147483648 ∨ 2147483647 < y) := by omega
  obtain ⟨c, text, htext, hc⟩ := yearText_head y
  rw [htext, List.cons_append] at hnumber ⊢
  unfold year
  rw [bind_ok _ (skipBlanks_cons hc _), bind_ok _ hnumber]
  simp only [if_neg hbounds]
  rfl

/-- A fraction that is written in some digits is read back. -/
private theorem fraction_padded (size n : Nat) (hsize : 0 < size) (hmost : size ≤ 9)
    (hn : n < 10 ^ size) (hrest : NoDigit rest) :
    fraction ('.' :: (padded size n ++ rest)) = .ok (n * 10 ^ (9 - size), rest) := by
  have hlength := length_padded hsize hn
  have hread := digits_some rest (padded_ne_nil size n) isDigit_of_mem_padded
    (hlength ▸ hmost) (.inr hrest)
  -- After at most nine digits any further ones would be dropped, and there are none.
  have hdrop : ([] ++ rest).dropWhile Char.isDigit = rest :=
    dropWhile_isDigit_append (fun _ h => absurd h List.not_mem_nil) hrest
  rw [List.nil_append] at hdrop
  unfold fraction
  rw [bind_ok _ (get_ok _)]
  show ((set (padded size n ++ rest) : Reader PUnit) >>= _) _ = _
  rw [bind_ok _ (set_ok _ _), bind_ok _ hread]
  show Except.ok (Nat.ofDigitChars 10 (padded size n) 0 * Nat.pow 10 (9 - (padded size n).length),
    rest.dropWhile Char.isDigit) = _
  rw [hdrop, hlength, ofDigitChars_padded]
  rfl

/-- Fractions are read back from three, six or nine digits, or none. -/
private theorem fraction_fractionText {nano : Nat} (rest : List Char) (hnano : nano < 1000000000)
    (hrest : NoDigit rest) (hpoint : ∀ c ∈ rest.head?, c ≠ '.') :
    fraction (fractionText nano ++ rest) = .ok (nano, rest) := by
  unfold fractionText
  split
  next hzero =>
    -- Nothing is written, and what follows does not begin with a point.
    subst hzero
    unfold fraction
    rw [List.nil_append, bind_ok _ (get_ok _)]
    split
    next => exact absurd rfl (hpoint '.' rfl)
    next => rfl
  next =>
    split
    next hmillis =>
      -- The digits that are not written are zeros.
      have hvalue : nano / 1000000 * 10 ^ (9 - 3) = nano := by omega
      have hread := fraction_padded 3 (nano / 1000000) (by decide) (by decide)
        (by omega) hrest
      rwa [hvalue] at hread
    next =>
      split
      next hmicros =>
        have hvalue : nano / 1000 * 10 ^ (9 - 6) = nano := by omega
        have hread := fraction_padded 6 (nano / 1000) (by decide) (by decide)
          (by omega) hrest
        rwa [hvalue] at hread
      next =>
        have hvalue : nano * 10 ^ (9 - 9) = nano := Nat.mul_one nano
        have hread := fraction_padded 9 nano (by decide) (by decide) hnano hrest
        rwa [hvalue] at hread

/-! ## Whole stamps -/

/-- The month and the day of a date of the calendar fit into two digits. -/
private theorem bounds_of_isValid {date : Date} (h : date.isValid = true) :
    1 ≤ date.month ∧ date.month ≤ 12 ∧ 1 ≤ date.day ∧ date.day ≤ 31 := by
  unfold Date.isValid at h
  simp only [Bool.and_eq_true, decide_eq_true_eq] at h
  obtain ⟨hday, hlast⟩ := h
  unfold Date.daysInMonth at hlast
  split at hlast
  -- Only the length of February depends on the year.
  all_goals first | omega | skip
  next => split at hlast <;> omega

/-- The parts of the stamp of an instant. A leap second adds one to the second it follows. -/
def partsOf (t : Instant) : Parts where
  date := t.date
  hour := t.second / 3600
  minute := t.second / 60 % 60
  second := t.second % 60 + if 1000000000 ≤ t.nano then 1 else 0
  nano := t.nano % 1000000000
  offset := 0

/-- The parts of a stamp are read back. -/
private theorem parts_write (t : Instant) : parts (write t) = .ok (partsOf t, []) := by
  have hnano : t.nano % 1000000000 < 1000000000 := Nat.mod_lt _ (by decide)
  have hvalid : t.date.isValid = true := Date.isValid_ofDay t.day
  have hyears : -262143 ≤ t.date.year ∧ t.date.year ≤ 262142 :=
    Date.year_ofDay_mem t.day_ge t.day_le
  obtain ⟨hmonth, hmonth', hday, hday'⟩ := bounds_of_isValid hvalid
  have hsecond := t.second_lt
  obtain ⟨extra, hextra⟩ : ∃ extra, extra = if 1000000000 ≤ t.nano then 1 else 0 := ⟨_, rfl⟩
  have hone : extra ≤ 1 := by
    rw [hextra]
    split <;> decide
  have htext : write t = yearText t.date.year ++ '-' :: (padded 2 t.date.month ++ '-' ::
      (padded 2 t.date.day ++ 'T' :: (padded 2 (t.second / 3600) ++ ':' ::
        (padded 2 (t.second / 60 % 60) ++ ':' :: (padded 2 (t.second % 60 + extra) ++
          (fractionText (t.nano % 1000000000) ++ ['Z'])))))) := by
    unfold write dateText timeText
    simp only [← hextra]
    simp [List.append_assoc]
  -- The readers take the parts one after the other, each from what the one before leaves.
  have hread := fraction_fractionText ['Z'] hnano (noDigit_cons (by decide) _)
    (fun c hc => by
      obtain rfl : 'Z' = c := by simpa using hc
      decide)
  rw [htext]
  unfold parts partsOf
  rw [bind_ok _ (year_yearText hyears.1 hyears.2 (noDigit_cons (by decide) _)),
    bind_ok _ (separator_cons (by decide) _),
    bind_ok _ (field_padded hmonth hmonth' (by omega) _),
    bind_ok _ (separator_cons (by decide) _),
    bind_ok _ (field_padded hday hday' (by omega) _),
    bind_ok _ (get_ok _), ← hextra]
  simp only
  rw [bind_ok _ (set_ok _ _),
    bind_ok _ (field_padded (Nat.zero_le _) (by omega) (by omega) _),
    bind_ok _ (separator_cons (by decide) _),
    bind_ok _ (field_padded (Nat.zero_le _) (by omega) (by omega) _),
    bind_ok _ (separator_cons (by decide) _),
    bind_ok _ (field_padded (Nat.zero_le _) (by omega) (by omega) _),
    bind_ok _ hread,
    bind_ok _ (skipBlanks_cons (by decide) _)]
  rfl

/-- Parts in UTC that name the day, the second and the fraction of an instant name that instant. -/
private theorem toInstant_eq {p : Parts} (t : Instant) (hdate : p.date = t.date)
    (hoffset : p.offset = 0)
    (hsecond : p.hour * 3600 + p.minute * 60 + (if p.second = 60 then 59 else p.second) = t.second)
    (hnano : p.nano + (if p.second = 60 then 1000000000 else 0) = t.nano) :
    p.toInstant = .ok t := by
  have hvalid : t.date.isValid = true := Date.isValid_ofDay t.day
  have hyears : yearInRange t.date.year = true := by
    obtain ⟨hlow, hhigh⟩ := Date.year_ofDay_mem t.day_ge t.day_le
    unfold yearInRange
    simp only [Bool.and_eq_true, decide_eq_true_eq]
    exact ⟨hlow, hhigh⟩
  have hday : t.date.toDay = t.day := Date.toDay_ofDay t.day
  -- Without an offset the clock stays within the day.
  have hlt := t.second_lt
  have hsame : (t.second : Int) / 86400 = 0 ∧ (t.second : Int) % 86400 = t.second := by omega
  have hthere : Instant.ofParts? t.day t.second t.nano = some t := by
    unfold Instant.ofParts?
    rw [dif_pos ⟨t.day_ge, t.day_le, t.second_lt, t.nano_lt⟩]
  unfold Parts.toInstant
  simp only [hdate, hoffset, hsecond, hnano, hyears, hvalid, hday, and_self, not_true_eq_false,
    ↓reduceIte, Int.sub_zero, Int.ofNat_eq_natCast, hsame.1, hsame.2, Int.add_zero,
    Int.toNat_natCast, hthere]
  rfl

/-- The stamp of an instant is read as the instant that it names. -/
theorem read_write_stamped (t : Instant) : read (write t) = .ok t.stamped := by
  have hsecond := t.second_lt
  have hnano := t.nano_lt
  have hclock : t.second / 3600 * 3600 + t.second / 60 % 60 * 60 + t.second % 60 = t.second := by
    omega
  have hparts := parts_write t
  show (parts (write t) >>= fun p => p.1.toInstant) = _
  rw [hparts]
  show (partsOf t).toInstant = _
  -- A leap second is told as the second number 60, or as the next second.
  by_cases hleap : t.isLeap = true
  · have hlong : 1000000000 ≤ t.nano := of_decide_eq_true hleap
    have hfraction : t.nano % 1000000000 = t.nano - 1000000000 := by omega
    by_cases hlast : t.second % 60 = 59
    · -- The second number 60.
      rw [t.stamped_of_last hlast]
      refine toInstant_eq t rfl rfl ?_ ?_
      all_goals
        simp only [partsOf, if_pos hlong, hlast, ↓reduceIte]
        omega
    · -- The stamp of the next second.
      obtain ⟨hday, hnext, hrest⟩ := t.stamped_of_leap hleap hlast
      have hnot : ¬ t.second % 60 + 1 = 60 := by omega
      refine toInstant_eq t.stamped (congrArg Date.ofDay hday.symm) rfl ?_ ?_
      · simp only [partsOf, if_pos hlong, if_neg hnot]
        omega
      · simp only [partsOf, if_pos hlong, if_neg hnot]
        omega
  · have hshort : ¬ 1000000000 ≤ t.nano := by simpa [Instant.isLeap] using hleap
    have hnot : ¬ t.second % 60 + 0 = 60 := by omega
    rw [t.stamped_of_not_leap (by simpa using hleap)]
    refine toInstant_eq t rfl rfl ?_ ?_
    all_goals
      simp only [partsOf, if_neg hshort, if_neg hnot]
      omega

end Stamp

end Gamebook
