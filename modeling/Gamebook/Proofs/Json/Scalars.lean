import Gamebook.Json.Printer
import Gamebook.Json.Reader
import Gamebook.Proofs.Decimal.Digits
import Gamebook.Proofs.Text.Reading

/-!
# Reading back scalars

What the printer writes for a truth value, a whole number or a string, the reader takes off the
front of a text again, and leaves what follows. A number needs something after it that does not go
on with it.

## Key results

- `next?_gap`: white space is passed over to the next character
- `NumberText.number_spelled`: a number is read from each of its spellings
- `number_intText`: whole numbers of 64 bits are read back
- `string_flatMap`: strings are read back, whatever characters they hold
-/

namespace Gamebook.Json

open Reading

variable {rest : List Char}

/-- The next character is taken off. -/
theorem advance_cons (c : Char) (rest : List Char) : advance (c :: rest) = .ok ((), rest) := rfl

/-! ## White space -/

/-- Whether a text is nothing but white space. -/
def Gap (gap : List Char) : Prop := ∀ c ∈ gap, isSpace c = true

/-- Nothing is white space. -/
theorem gap_nil : Gap [] := fun _ h => by cases h

/-- So is a blank. -/
theorem gap_space : Gap [' '] := fun c hc => by
  rw [List.mem_singleton.1 hc]
  decide

/-- So are a new line and its indentation. -/
theorem gap_newline (level : Nat) : Gap (newline level) := by
  intro c hc
  rcases List.mem_cons.1 hc with rfl | hc
  · decide
  · rw [List.eq_of_mem_replicate hc]
    decide

/-- White space is passed over to the next character. -/
theorem next?_gap {gap : List Char} (hgap : Gap gap) {c : Char} (hc : isSpace c = false)
    (rest : List Char) : next? (gap ++ c :: rest) = .ok (some c, c :: rest) := by
  have hdrop : (gap ++ c :: rest).dropWhile isSpace = c :: rest := by
    rw [List.dropWhile_append_of_pos hgap]
    exact List.dropWhile_cons_of_neg (by simp [hc])
  show Except.ok (((gap ++ c :: rest).dropWhile isSpace).head?,
    (gap ++ c :: rest).dropWhile isSpace) = _
  rw [hdrop]
  rfl

/-- A character that is no white space is seen at once. -/
theorem next?_cons {c : Char} (hc : isSpace c = false) (rest : List Char) :
    next? (c :: rest) = .ok (some c, c :: rest) :=
  next?_gap gap_nil hc rest

/-- The letters of a word are read one by one. -/
theorem word_append (letters rest : List Char) :
    word letters (letters ++ rest) = .ok ((), rest) := by
  induction letters with
  | nil => rfl
  | cons c letters ih =>
    unfold word
    rw [bind_ok _ (get_ok _)]
    simp only [List.cons_append, ↓reduceIte]
    rw [bind_ok _ (set_ok _ _)]
    exact ih

/-- A word gives what it stands for, once its first letter is known. -/
theorem word_ok {α : Type} (c : Char) (letters rest : List Char) (a : α) :
    (do advance; word letters; return a : Reader α) (c :: (letters ++ rest)) = .ok (a, rest) := by
  rw [bind_ok _ (advance_cons _ _), bind_ok _ (word_append _ _)]
  rfl

/-! ## Numbers -/

/-- Whether a character goes on with a number. -/
def goesOn (c : Char) : Bool := c.isDigit || c = '.' || c = 'e' || c = 'E'

/-- Whether a number that stands before a text ends there. -/
def Closes (rest : List Char) : Prop := ∀ c ∈ rest.head?, goesOn c = false

/-- A number ends at the end of the text. -/
theorem closes_nil : Closes [] := fun _ h => by cases h

/-- It ends before a character that cannot go on with it. -/
theorem closes_cons {c : Char} (hc : goesOn c = false) (rest : List Char) : Closes (c :: rest) :=
  fun _ h => by
    obtain rfl : c = _ := by simpa using h
    exact hc

/-- It ends before a new line. -/
theorem closes_newline (level : Nat) (rest : List Char) : Closes (newline level ++ rest) :=
  closes_cons (by decide) _

/-- What ends a number begins with no digit. -/
theorem noDigit_of_closes (h : Closes rest) : Decimal.NoDigit rest := by
  intro c hc
  have hgoes := h c hc
  unfold goesOn at hgoes
  simp only [Bool.or_eq_false_iff] at hgoes
  exact hgoes.1.1.1

/-- Digits are read up to where they end. -/
theorem someDigits_append (atEnd : Problem) {digits : List Char} (hne : digits ≠ [])
    (hdigits : ∀ c ∈ digits, c.isDigit) (hrest : Decimal.NoDigit rest) :
    someDigits atEnd (digits ++ rest) = .ok (digits, rest) := by
  unfold someDigits
  rw [bind_ok _ (get_ok _)]
  simp only [Decimal.takeWhile_isDigit_append hdigits hrest,
    Decimal.dropWhile_isDigit_append hdigits hrest]
  have hempty : digits.isEmpty = false := by simpa using hne
  simp only [hempty, Bool.false_eq_true, ↓reduceIte]
  rfl

namespace NumberText

/-- The point and the digits after it, if there are any. -/
def fractionPart (t : NumberText) : List Char := if t.fraction = [] then [] else '.' :: t.fraction

/-- The exponent with its sign, if there is one. -/
def exponentPart (t : NumberText) : List Char :=
  match t.exponent with
  | none => []
  | some (negative, digits) => 'e' :: (if negative then '-' else '+') :: digits

/-- A number as it is written. -/
def text (t : NumberText) : List Char :=
  (if t.negative then ['-'] else []) ++ (t.whole ++ (t.fractionPart ++ t.exponentPart))

/-- Whether the parts of a number can be told apart in its text. -/
structure WellFormed (t : NumberText) : Prop where
  whole_ne : t.whole ≠ []
  whole_digits : ∀ c ∈ t.whole, c.isDigit
  /-- A zero in front stands alone. -/
  whole_head : ∀ digits, t.whole = '0' :: digits → digits = []
  fraction_digits : ∀ c ∈ t.fraction, c.isDigit
  exponent_digits : ∀ negative digits, t.exponent = some (negative, digits) →
    digits ≠ [] ∧ ∀ c ∈ digits, c.isDigit

/-! ### Spellings -/

/-- The ways to write the letter of an exponent and its sign. -/
def exponentMarks (negative : Bool) : List (List Char) :=
  if negative then [['e', '-'], ['E', '-']] else [['e'], ['E'], ['e', '+'], ['E', '+']]

/-- Whether an exponent, if there is one, can be marked so. -/
def Marked (t : NumberText) (mark : List Char) : Prop :=
  ∀ written ∈ t.exponent, mark ∈ exponentMarks written.1

/-- The exponent behind its mark, if there is one. -/
def markedExponent (t : NumberText) (mark : List Char) : List Char :=
  match t.exponent with
  | none => []
  | some (_, digits) => mark ++ digits

/-- A number as it is written with one of the marks for its exponent. -/
def spelled (t : NumberText) (mark : List Char) : List Char :=
  (if t.negative then ['-'] else []) ++ (t.whole ++ (t.fractionPart ++ t.markedExponent mark))

/-- One of the spellings of a number is its text. -/
theorem text_eq_spelled (t : NumberText) : ∃ mark, t.Marked mark ∧ t.text = t.spelled mark := by
  unfold Marked text spelled exponentPart markedExponent
  cases t.exponent with
  | none => exact ⟨[], nofun, rfl⟩
  | some written =>
    obtain ⟨negative, digits⟩ := written
    refine ⟨['e', if negative then '-' else '+'], fun written hwritten => ?_, rfl⟩
    obtain rfl := Option.some.inj hwritten
    cases negative <;> simp [exponentMarks]

variable {t : NumberText} {mark : List Char}

/-- Digits have no sign in front of them. -/
private theorem exponentSign_digits {digits : List Char} (hne : digits ≠ [])
    (hdigits : ∀ c ∈ digits, c.isDigit) (rest : List Char) :
    exponentSign (digits ++ rest) = .ok (false, digits ++ rest) := by
  obtain ⟨c, digits, rfl⟩ := List.exists_cons_of_ne_nil hne
  have hdigit : c.isDigit := hdigits c List.mem_cons_self
  have hplus : c ≠ '+' := fun h => absurd (h ▸ hdigit) (by decide)
  have hminus : c ≠ '-' := fun h => absurd (h ▸ hdigit) (by decide)
  unfold exponentSign
  rw [List.cons_append, bind_ok _ (get_ok _)]
  simp only [List.cons.injEq, hplus, hminus, false_and, imp_self, implies_true]
  rfl

/-- Nothing but a digit goes on with the digits of an exponent. -/
private theorem exponentDigits_append (atEnd : Problem) (ht : t.WellFormed) (hmark : t.Marked mark)
    (hrest : Closes rest) :
    exponentDigits atEnd (t.markedExponent mark ++ rest) = .ok (t.exponent, rest) := by
  unfold Marked at hmark
  unfold markedExponent
  cases hexponent : t.exponent with
  | none =>
    unfold exponentDigits
    rw [bind_ok _ (get_ok _), List.nil_append]
    split
    -- Nothing that closes a number is the letter of an exponent.
    next => exact absurd (hrest _ rfl) (by decide)
    next => exact absurd (hrest _ rfl) (by decide)
    next => rfl
  | some written =>
    obtain ⟨negative, digits⟩ := written
    obtain ⟨hne, hdigits⟩ := ht.exponent_digits negative digits hexponent
    have hsome := someDigits_append atEnd hne hdigits (noDigit_of_closes hrest)
    have hbare := exponentSign_digits hne hdigits rest
    -- Behind either letter the sign is read, and then the digits.
    have hletter : ∀ sign, exponentSign (sign ++ (digits ++ rest)) =
        .ok (negative, digits ++ rest) → ∀ letter, letter = 'e' ∨ letter = 'E' →
        exponentDigits atEnd (letter :: (sign ++ (digits ++ rest))) =
          .ok (some (negative, digits), rest) := by
      intro sign hsign letter hletter
      unfold exponentDigits
      rw [bind_ok _ (get_ok _)]
      rcases hletter with rfl | rfl
      all_goals
        simp only
        rw [bind_ok _ (set_ok _ _), bind_ok _ hsign, bind_ok _ hsome]
        rfl
    -- Each mark is one of the two letters, with or without a sign.
    have hmem := hmark (negative, digits) hexponent
    rw [List.append_assoc]
    cases negative with
    | true =>
      simp only [exponentMarks, ↓reduceIte, List.mem_cons, List.not_mem_nil, or_false] at hmem
      rcases hmem with rfl | rfl
      · exact hletter ['-'] rfl 'e' (.inl rfl)
      · exact hletter ['-'] rfl 'E' (.inr rfl)
    | false =>
      simp only [exponentMarks, Bool.false_eq_true, ↓reduceIte, List.mem_cons, List.not_mem_nil,
        or_false] at hmem
      rcases hmem with rfl | rfl | rfl | rfl
      · exact hletter [] hbare 'e' (.inl rfl)
      · exact hletter [] hbare 'E' (.inr rfl)
      · exact hletter ['+'] rfl 'e' (.inl rfl)
      · exact hletter ['+'] rfl 'E' (.inr rfl)

/-- Neither a digit nor a point stands before an exponent. -/
private theorem markedExponent_opens (hmark : t.Marked mark) (hrest : Closes rest) :
    ∀ c ∈ (t.markedExponent mark ++ rest).head?, c.isDigit = false ∧ c ≠ '.' := by
  unfold Marked at hmark
  unfold markedExponent
  intro c hc
  cases hexponent : t.exponent with
  | none =>
    rw [hexponent] at hc
    have hgoes := hrest c hc
    unfold goesOn at hgoes
    simp only [Bool.or_eq_false_iff, decide_eq_false_iff_not] at hgoes
    exact hgoes.1.1
  | some written =>
    rw [hexponent, List.append_assoc] at hc
    have hletter : ∀ mark ∈ exponentMarks written.1,
        ∃ sign, mark = 'e' :: sign ∨ mark = 'E' :: sign := by
      cases written.1 <;> simp [exponentMarks]
    -- Both letters are neither digits nor a point.
    obtain ⟨sign, rfl | rfl⟩ := hletter mark (hmark written hexponent)
    · obtain rfl : 'e' = c := by simpa using hc
      decide
    · obtain rfl : 'E' = c := by simpa using hc
      decide

/-- The digits after the point are read up to what follows them. -/
private theorem fractionDigits_append (atEnd : Problem) (ht : t.WellFormed) {after : List Char}
    (hopens : ∀ c ∈ after.head?, c.isDigit = false ∧ c ≠ '.') :
    fractionDigits atEnd (t.fractionPart ++ after) = .ok (t.fraction, after) := by
  unfold fractionDigits fractionPart
  rw [bind_ok _ (get_ok _)]
  split
  next hnone =>
    rw [hnone, List.nil_append]
    -- Without a fraction no point is read, since what follows opens with none.
    split
    next => exact absurd rfl (hopens '.' rfl).2
    next => rfl
  next hsome =>
    simp only [List.cons_append]
    rw [bind_ok _ (set_ok _ _)]
    exact someDigits_append atEnd hsome ht.fraction_digits fun c hc => (hopens c hc).1

/-- The digits before the point are read up to what follows them. -/
private theorem wholeDigits_append (atEnd : Problem) (ht : t.WellFormed)
    (hrest : Decimal.NoDigit rest) : wholeDigits atEnd (t.whole ++ rest) = .ok (t.whole, rest) := by
  obtain ⟨c, digits, hwhole⟩ := List.exists_cons_of_ne_nil ht.whole_ne
  have hsome := someDigits_append atEnd ht.whole_ne ht.whole_digits hrest
  unfold wholeDigits
  rw [bind_ok _ (get_ok _)]
  rw [hwhole, List.cons_append] at hsome ⊢
  by_cases hzero : c = '0'
  · -- A zero is read alone, if no digit follows.
    subst hzero
    obtain rfl := ht.whole_head digits hwhole
    have hhead : rest.head?.any Char.isDigit = false := by
      cases rest with
      | nil => rfl
      | cons c rest => simpa using hrest c rfl
    simp only [List.nil_append, hhead, Bool.false_eq_true, ↓reduceIte]
    rfl
  · simp [hzero, hsome]

/-- A number is read up to where it ends. -/
theorem numberText_append (atEnd : Problem) (ht : t.WellFormed) (hmark : t.Marked mark)
    (hrest : Closes rest) :
    numberText atEnd t.negative (t.whole ++ (t.fractionPart ++ (t.markedExponent mark ++ rest))) =
      .ok (t, rest) := by
  have hopens := markedExponent_opens hmark hrest
  -- The whole part ends at the point, or at what follows the number.
  have hwhole : Decimal.NoDigit (t.fractionPart ++ (t.markedExponent mark ++ rest)) := by
    unfold fractionPart
    split
    next => exact fun c hc => (hopens c hc).1
    next => exact Decimal.noDigit_cons (by decide) _
  unfold numberText
  rw [bind_ok _ (wholeDigits_append atEnd ht hwhole),
    bind_ok _ (fractionDigits_append atEnd ht hopens),
    bind_ok _ (exponentDigits_append atEnd ht hmark hrest)]
  rfl

/-- What comes after the sign of a number is read as a number without a sign. -/
private theorem number_sign (ht : t.WellFormed) (text : List Char) :
    number ((if t.negative then ['-'] else []) ++ (t.whole ++ text)) =
      unsignedNumber t.negative (t.whole ++ text) := by
  unfold number
  rw [bind_ok _ (get_ok _)]
  cases t.negative with
  | true =>
    simp only [↓reduceIte, List.cons_append, List.nil_append]
    rw [bind_ok _ (set_ok _ _)]
  | false =>
    -- No digit is a minus sign.
    obtain ⟨c, digits, hwhole⟩ := List.exists_cons_of_ne_nil ht.whole_ne
    have hdigit : c.isDigit := ht.whole_digits c (hwhole ▸ List.mem_cons_self)
    have hc : c ≠ '-' := fun h => absurd (h ▸ hdigit) (by decide)
    rw [hwhole]
    simp [hc]

/-- Every spelling of a number begins with a minus sign or a digit. -/
theorem spelled_head (ht : t.WellFormed) (mark : List Char) :
    ∃ c text, t.spelled mark = c :: text ∧ (c = '-' ∨ c.isDigit) := by
  obtain ⟨c, digits, hwhole⟩ := List.exists_cons_of_ne_nil ht.whole_ne
  have hdigit : c.isDigit := ht.whole_digits c (hwhole ▸ List.mem_cons_self)
  unfold spelled
  cases t.negative with
  | true => exact ⟨_, _, rfl, .inl rfl⟩
  | false =>
    rw [hwhole]
    exact ⟨_, _, rfl, .inr hdigit⟩

/-- The text of a number begins with a minus sign or a digit. -/
theorem text_head (ht : t.WellFormed) :
    ∃ c text, t.text = c :: text ∧ (c = '-' ∨ c.isDigit) := by
  obtain ⟨mark, -, htext⟩ := t.text_eq_spelled
  rw [htext]
  exact spelled_head ht mark

/-- A number is read from each of its spellings as what it stands for, if it is not too large. -/
theorem number_spelled (ht : t.WellFormed) (hmark : t.Marked mark) (hrest : Closes rest) :
    (number (t.spelled mark ++ rest)).toOption = t.number?.map (·, rest) := by
  unfold spelled
  rw [List.append_assoc, List.append_assoc, List.append_assoc, number_sign ht]
  unfold unsignedNumber
  rw [bind_ok _ (numberText_append _ ht hmark hrest)]
  cases t.number? <;> rfl

/-- A number is read as what it stands for. -/
theorem number_text (ht : t.WellFormed) {n : Number} (hn : t.number? = some n)
    (hrest : Closes rest) : number (t.text ++ rest) = .ok (n, rest) := by
  obtain ⟨mark, hmark, htext⟩ := t.text_eq_spelled
  have hread := number_spelled ht hmark hrest
  rw [hn] at hread
  rw [htext]
  exact toOption_eq_some.1 hread

/-- The text of a whole number. -/
def ofInt (n : Int) : NumberText where
  negative := decide (n < 0)
  whole := Decimal.digitsOf n.natAbs
  fraction := []
  exponent := none

/-- An integer is written with its sign and its digits. -/
theorem text_ofInt (n : Int) : (ofInt n).text = intText n := by
  unfold text intText
  have hparts : (ofInt n).fractionPart ++ (ofInt n).exponentPart = [] := rfl
  rw [hparts, List.append_nil]
  show (if decide (n < 0) then ['-'] else []) ++ Decimal.digitsOf n.natAbs = _
  by_cases hneg : n < 0 <;> simp [hneg]

/-- The text of an integer is well formed. -/
theorem wellFormed_ofInt (n : Int) : (ofInt n).WellFormed where
  whole_ne := Nat.toDigits_ne_nil
  whole_digits := Decimal.isDigit_of_mem_toDigits
  whole_head digits hdigits := by
    change Nat.toDigits 10 n.natAbs = '0' :: digits at hdigits
    rcases Nat.eq_zero_or_pos n.natAbs with hzero | hpos
    · rw [hzero, Nat.toDigits_zero] at hdigits
      exact (List.cons.inj hdigits).2.symm
    · obtain ⟨c, rest, htext, hc, -⟩ := Decimal.head_toDigits_ne_zero hpos
      rw [htext] at hdigits
      exact absurd (List.cons.inj hdigits).1 hc
  fraction_digits := fun _ h => absurd h List.not_mem_nil
  exponent_digits := fun _ _ h => by cases h

end NumberText

/-- Whole numbers that fit into 64 bits are read back. -/
theorem number_intText (n : Int) (hleast : minInt64 ≤ n) (hgreatest : n ≤ maxUInt64)
    (hrest : Closes rest) : number (intText n ++ rest) = .ok (.int n, rest) := by
  have hvalue : Nat.ofDigitChars 10 (Decimal.digitsOf n.natAbs) 0 = n.natAbs :=
    Nat.ofDigitChars_ten_toDigits
  unfold minInt64 at hleast
  unfold maxUInt64 at hgreatest
  have hnumber : (NumberText.ofInt n).number? = some (.int n) := by
    unfold NumberText.number? NumberText.ofInt minInt64 maxUInt64
    simp only [hvalue]
    -- The sign tells which of the two ranges the integer must fit.
    by_cases hneg : n < 0
    · rw [if_neg (by simp [hneg]), if_pos (by simp [hneg]; omega)]
      congr 2
      omega
    · rw [if_pos (by simp [hneg]; omega)]
      congr 2
      omega
  rw [← NumberText.text_ofInt]
  exact NumberText.number_text (NumberText.wellFormed_ofInt n) hnumber hrest

/-! ## Strings -/

/-- A control character is written as a word of four digits. -/
private theorem hexFour_eq : ∀ n < 0x20,
    hexFour n = ['0', '0', Nat.digitChar (n / 16), Nat.digitChar (n % 16)] := by decide

/-- The word that a control character is written as stands for it. -/
private theorem hexWord_digitChar : ∀ n < 0x20,
    hexWord '0' '0' (Nat.digitChar (n / 16)) (Nat.digitChar (n % 16)) = some n := by decide

/-- A character is read back as it stands in a string. -/
private theorem stringBody_escapedChar (c : Char) (text : List Char) :
    stringBody (escapedChar c ++ text) = consChar c (stringBody text) := by
  unfold escapedChar
  split
  -- All characters but those with an escape of one letter.
  case h_8 hquote hbackslash _ _ _ _ _ =>
    split
    next hcontrol =>
      -- The word of a control character is no half of a pair.
      have hword := hexWord_digitChar c.toNat hcontrol
      have htrailing : isTrailing c.toNat = false := by
        unfold isTrailing
        simp
        omega
      have hleading : isLeading c.toNat = false := by
        unfold isLeading
        simp
        omega
      rw [hexFour_eq c.toNat hcontrol]
      simp only [List.cons_append, List.nil_append, stringBody, hword, htrailing, hleading,
        Bool.false_eq_true, ↓reduceIte, Char.ofNat_toNat]
    next hplain =>
      -- A plain character stands for itself.
      simp only [List.cons_append, List.nil_append]
      rw [stringBody]
      · rw [if_neg hplain]
      all_goals simp_all
  all_goals simp [stringBody, escapeLetter]

/-- The characters of a string are read back up to its closing quote. -/
theorem stringBody_flatMap (chars text : List Char) :
    stringBody (chars.flatMap escapedChar ++ '"' :: text) = .ok (chars, text) := by
  -- Whatever a character is written as, it is read before the rest of the string.
  induction chars with
  | nil => simp [stringBody]
  | cons c chars ih =>
    rw [List.flatMap_cons, List.append_assoc, stringBody_escapedChar, ih]
    rfl

/-- A string is read back, once its opening quote has been read. -/
theorem string_flatMap (s : String) (rest : List Char) :
    string (s.toList.flatMap escapedChar ++ '"' :: rest) = .ok (s, rest) := by
  unfold string
  rw [stringBody_flatMap]
  simp

end Gamebook.Json
