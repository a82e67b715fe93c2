import Gamebook.Proofs.Json.Script
import Gamebook.Proofs.Json.Yields
import Mathlib.Data.List.TakeWhile

/-!
# What is read is spelled so

Whatever a reader takes off the front of a text is spelled as the grammar says: white space, the
letters of a word, the parts of a number, and the letters of a string.

## Key results

- `of_next?_ok`, `of_word_ok`: white space and words
- `of_numberText_ok`, `of_number_ok`: a number that is read is the text of a numeral
- `of_string_ok`, `of_skipString_ok`: a string that is read or passed over is made of letters
-/

namespace Gamebook.Json

open Reading

variable {text rest : List Char}

/-! ## White space and words -/

/-- The next character is what comes behind white space. -/
theorem of_next?_ok {c : Option Char} (h : next? text = .ok (c, rest)) :
    c = rest.head? ∧ ∃ gap, Gap gap ∧ text = gap ++ rest := by
  have hread : (.ok ((text.dropWhile isSpace).head?, text.dropWhile isSpace) :
      Except Problem _) = .ok (c, rest) := h
  obtain ⟨rfl, rfl⟩ := Prod.mk.inj (Except.ok.inj hread)
  exact ⟨rfl, text.takeWhile isSpace, fun _ => List.mem_takeWhile_imp,
    List.takeWhile_append_dropWhile.symm⟩

/-- A character that is seen is the first of what is left. -/
theorem of_next?_some {c : Char} (h : next? text = .ok (some c, rest)) :
    ∃ gap after, Gap gap ∧ rest = c :: after ∧ text = gap ++ c :: after := by
  obtain ⟨hhead, gap, hgap, htext⟩ := of_next?_ok h
  cases rest with
  | nil => cases hhead
  | cons d after =>
    obtain rfl := Option.some.inj hhead
    exact ⟨gap, after, hgap, rfl, htext⟩

/-- The next character is taken off. -/
theorem of_advance_ok (h : advance text = .ok ((), rest)) : rest = text.tail :=
  (Prod.mk.inj (Except.ok.inj h)).2.symm

/-- The letters of a word stand in the text. -/
theorem of_word_ok {letters : List Char} (h : word letters text = .ok ((), rest)) :
    text = letters ++ rest := by
  induction letters generalizing text with
  | nil => exact (Prod.mk.inj (Except.ok.inj h)).2
  | cons c letters ih =>
    unfold word at h
    rw [bind_ok _ (get_ok text)] at h
    -- The next letter of the word must be the next character of the text.
    cases text with
    | nil => exact absurd h (endedIn_ne_ok _)
    | cons d text =>
      simp only at h
      split at h
      next hd =>
        rw [bind_ok _ (set_ok _ _)] at h
        rw [hd, ih h]
        rfl
      next => exact absurd h (breached_ne_ok _)

/-! ## Numbers -/

/-- Digits that are read are digits, and there are some. -/
private theorem of_someDigits_ok {atEnd : Problem} {digits : List Char}
    (h : someDigits atEnd text = .ok (digits, rest)) :
    text = digits ++ rest ∧ digits ≠ [] ∧ ∀ c ∈ digits, c.isDigit := by
  unfold someDigits at h
  rw [bind_ok _ (get_ok text)] at h
  split at h
  next => cases h
  next hne =>
    rw [bind_ok _ (set_ok _ _)] at h
    obtain ⟨rfl, rfl⟩ := Prod.mk.inj (Except.ok.inj h)
    refine ⟨List.takeWhile_append_dropWhile.symm, ?_, fun _ => List.mem_takeWhile_imp⟩
    simpa using hne

/-- What is read as the whole part is written as one. -/
private theorem of_wholeDigits_ok {atEnd : Problem} {digits : List Char}
    (h : wholeDigits atEnd text = .ok (digits, rest)) :
    text = digits ++ rest ∧ digits ≠ [] ∧ (∀ c ∈ digits, c.isDigit) ∧
      ∀ more, digits = '0' :: more → more = [] := by
  unfold wholeDigits at h
  rw [bind_ok _ (get_ok text)] at h
  split at h
  next text =>
    split at h
    next => exact absurd h (breached_ne_ok _)
    next =>
      rw [bind_ok _ (set_ok _ _)] at h
      obtain ⟨rfl, rfl⟩ := Prod.mk.inj (Except.ok.inj h)
      have hdigits : ∀ c ∈ ['0'], c.isDigit := List.forall_mem_singleton.2 (by decide)
      refine ⟨rfl, List.cons_ne_nil _ _, hdigits, fun more hmore => ?_⟩
      exact (List.cons.inj hmore).2.symm
  next hzero =>
    obtain ⟨htext, hne, hdigits⟩ := of_someDigits_ok h
    refine ⟨htext, hne, hdigits, fun more hmore => ?_⟩
    -- A zero in front would have been read alone.
    exact absurd (by rw [htext, hmore]; rfl) (hzero (more ++ rest))

/-- What is read as a fraction is written as one. -/
private theorem of_fractionDigits_ok {atEnd : Problem} {digits : List Char}
    (h : fractionDigits atEnd text = .ok (digits, rest)) :
    text = (if digits = [] then [] else '.' :: digits) ++ rest ∧ ∀ c ∈ digits, c.isDigit := by
  unfold fractionDigits at h
  rw [bind_ok _ (get_ok text)] at h
  split at h
  next text =>
    rw [bind_ok _ (set_ok _ _)] at h
    obtain ⟨htext, hne, hdigits⟩ := of_someDigits_ok h
    rw [if_neg hne, htext]
    exact ⟨rfl, hdigits⟩
  next =>
    obtain ⟨rfl, rfl⟩ := Prod.mk.inj (Except.ok.inj h)
    exact ⟨rfl, fun _ h => absurd h List.not_mem_nil⟩

/-- What is read as the sign of an exponent is written as one. -/
private theorem of_exponentSign_ok {negative : Bool}
    (h : exponentSign text = .ok (negative, rest)) :
    ∃ sign, text = sign ++ rest ∧
      (sign = [] ∧ negative = false ∨ sign = ['+'] ∧ negative = false ∨
        sign = ['-'] ∧ negative = true) := by
  unfold exponentSign at h
  rw [bind_ok _ (get_ok text)] at h
  -- One case for each of the two signs, and one for none.
  split at h
  next text =>
    rw [bind_ok _ (set_ok _ _)] at h
    obtain ⟨rfl, rfl⟩ := Prod.mk.inj (Except.ok.inj h)
    exact ⟨['+'], rfl, .inr (.inl ⟨rfl, rfl⟩)⟩
  next text =>
    rw [bind_ok _ (set_ok _ _)] at h
    obtain ⟨rfl, rfl⟩ := Prod.mk.inj (Except.ok.inj h)
    exact ⟨['-'], rfl, .inr (.inr ⟨rfl, rfl⟩)⟩
  next =>
    obtain ⟨rfl, rfl⟩ := Prod.mk.inj (Except.ok.inj h)
    exact ⟨[], rfl, .inl ⟨rfl, rfl⟩⟩

/-- An exponent that is read has one of the marks, and digits. -/
private theorem of_exponentDigits_ok {atEnd : Problem} {exponent : Option (Bool × List Char)}
    (h : exponentDigits atEnd text = .ok (exponent, rest)) :
    (exponent = none ∧ text = rest) ∨ ∃ negative digits mark,
      exponent = some (negative, digits) ∧ mark ∈ NumberText.exponentMarks negative ∧
        text = mark ++ (digits ++ rest) ∧ digits ≠ [] ∧ ∀ c ∈ digits, c.isDigit := by
  -- Behind either letter the sign is read, and then the digits.
  have hletter : ∀ {letter : Char} {text : List Char}, letter = 'e' ∨ letter = 'E' →
      (do
        let negative ← exponentSign
        let digits ← someDigits atEnd
        return some (negative, digits) : Reader (Option (Bool × List Char))) text =
          .ok (exponent, rest) →
      ∃ negative digits mark, exponent = some (negative, digits) ∧
        mark ∈ NumberText.exponentMarks negative ∧ letter :: text = mark ++ (digits ++ rest) ∧
          digits ≠ [] ∧ ∀ c ∈ digits, c.isDigit := by
    intro letter text hletter h
    obtain ⟨negative, _, hsign, h⟩ := of_bind_ok h
    obtain ⟨digits, _, hdigits, h⟩ := of_bind_ok h
    obtain ⟨rfl, rfl⟩ := Prod.mk.inj (Except.ok.inj h)
    obtain ⟨sign, rfl, hsigns⟩ := of_exponentSign_ok hsign
    obtain ⟨rfl, hne, hall⟩ := of_someDigits_ok hdigits
    refine ⟨negative, digits, letter :: sign, rfl, ?_, rfl, hne, hall⟩
    rcases hletter with rfl | rfl <;> rcases hsigns with ⟨rfl, rfl⟩ | ⟨rfl, rfl⟩ | ⟨rfl, rfl⟩ <;>
      simp [NumberText.exponentMarks]
  unfold exponentDigits at h
  rw [bind_ok _ (get_ok text)] at h
  split at h
  next text =>
    rw [bind_ok _ (set_ok _ _)] at h
    exact .inr (hletter (.inl rfl) h)
  next text =>
    rw [bind_ok _ (set_ok _ _)] at h
    exact .inr (hletter (.inr rfl) h)
  next =>
    obtain ⟨rfl, rfl⟩ := Prod.mk.inj (Except.ok.inj h)
    exact .inl ⟨rfl, rfl⟩

/-- A number that is read is written as one of its spellings. -/
theorem of_numberText_ok {atEnd : Problem} {negative : Bool} {t : NumberText}
    (h : numberText atEnd negative text = .ok (t, rest)) :
    ∃ n : Numeral, (if negative then ['-'] else []) ++ text = n.text ++ rest := by
  obtain ⟨whole, _, hwhole, h⟩ := of_bind_ok h
  obtain ⟨fraction, _, hfraction, h⟩ := of_bind_ok h
  obtain ⟨exponent, _, hexponent, h⟩ := of_bind_ok h
  obtain ⟨rfl, rfl⟩ := Prod.mk.inj (Except.ok.inj h)
  -- The parts that were read are put together again.
  obtain ⟨rfl, hne, hdigits, hhead⟩ := of_wholeDigits_ok hwhole
  obtain ⟨rfl, hfractionDigits⟩ := of_fractionDigits_ok hfraction
  rcases of_exponentDigits_ok hexponent with
    ⟨rfl, rfl⟩ | ⟨negative', digits, mark, rfl, hmark, rfl, hexponentNe, hexponentDigits⟩
  · refine ⟨⟨⟨negative, whole, fraction, none⟩,
      ⟨hne, hdigits, hhead, hfractionDigits, nofun⟩, [], nofun⟩, ?_⟩
    simp [Numeral.text, NumberText.spelled, NumberText.fractionPart, NumberText.markedExponent]
  · refine ⟨⟨⟨negative, whole, fraction, some (negative', digits)⟩,
      ⟨hne, hdigits, hhead, hfractionDigits, fun _ _ heq => ?_⟩, mark, fun written heq => ?_⟩, ?_⟩
    · obtain ⟨rfl, rfl⟩ := Prod.mk.inj (Option.some.inj heq)
      exact ⟨hexponentNe, hexponentDigits⟩
    · obtain rfl := Option.some.inj heq
      exact hmark
    · simp [Numeral.text, NumberText.spelled, NumberText.fractionPart, NumberText.markedExponent]

/-- So is one that is read with its sign. -/
theorem of_number_ok {number' : Number} (h : number text = .ok (number', rest)) :
    ∃ n : Numeral, text = n.text ++ rest := by
  have hunsigned : ∀ {negative : Bool} {text : List Char},
      unsignedNumber negative text = .ok (number', rest) →
      ∃ n : Numeral, (if negative then ['-'] else []) ++ text = n.text ++ rest := by
    intro negative text h
    obtain ⟨t, between, hread, h⟩ := of_bind_ok h
    obtain ⟨n, htext⟩ := of_numberText_ok hread
    -- A number that is too large is no success.
    cases hvalue : t.number? with
    | none =>
      rw [hvalue] at h
      exact absurd h (breached_ne_ok _)
    | some number =>
      rw [hvalue] at h
      obtain ⟨-, rfl⟩ := Prod.mk.inj (Except.ok.inj h)
      exact ⟨n, htext⟩
  unfold number at h
  rw [bind_ok _ (get_ok text)] at h
  -- With a sign before it or without.
  split at h
  next text =>
    rw [bind_ok _ (set_ok _ _)] at h
    exact hunsigned h
  next => exact hunsigned h

/-! ## Strings -/

/-- A character is put before what was read of the text behind it. -/
private theorem of_consChar_ok {c : Char} {result : Except Problem (List Char × List Char)}
    {chars : List Char} (h : consChar c result = .ok (chars, rest)) :
    ∃ more, result = .ok (more, rest) := by
  cases result with
  | error e => cases h
  | ok read =>
    obtain ⟨more, after⟩ := read
    obtain ⟨-, rfl⟩ := Prod.mk.inj (Except.ok.inj h)
    exact ⟨more, rfl⟩

/-- Whether a text begins with letters and the closing quote behind them. -/
private def Lettered (rest text : List Char) : Prop :=
  ∃ letters : List Letter, text = letters.flatMap Letter.text ++ '"' :: rest

/-- A closing quote ends the letters. -/
private theorem lettered_nil (rest : List Char) : Lettered rest ('"' :: rest) := ⟨[], rfl⟩

/-- A letter may stand before letters. -/
private theorem Lettered.cons (letter : Letter) (h : Lettered rest text) :
    Lettered rest (letter.text ++ text) := by
  obtain ⟨letters, rfl⟩ := h
  exact ⟨letter :: letters, by rw [List.flatMap_cons, List.append_assoc]⟩

/-- What neither is the last character nor stands before another one is no backslash. -/
private theorem ne_backslash {c : Char} (hlast : c = '\\' → text = [] → False)
    (hmore : ∀ d rest, c = '\\' → text = d :: rest → False) : c ≠ '\\' := by
  intro hc
  cases text with
  | nil => exact hlast hc rfl
  | cons d text => exact hmore d text hc rfl

/-- What is read as a string is written with letters. -/
private theorem of_stringBody_ok {chars : List Char} (h : stringBody text = .ok (chars, rest)) :
    Lettered rest text := by
  -- Only the branches of the reader that succeed are left, one for each kind of letter.
  fun_induction stringBody text generalizing chars with
  | case2 =>
    obtain ⟨-, rfl⟩ := Prod.mk.inj (Except.ok.inj h)
    exact lettered_nil _
  | case7 a b c d n hn _ _ a' b' c' d' rest' m hm _ ih =>
    -- Two halves of a pair are two letters.
    obtain ⟨_, hread⟩ := of_consChar_ok h
    exact ((ih hread).cons (.word a' b' c' d' m hm)).cons (.word a b c d n hn)
  | case13 a b c d _ n hn _ _ ih =>
    obtain ⟨_, hread⟩ := of_consChar_ok h
    exact (ih hread).cons (.word a b c d n hn)
  | case15 c _ _ _ e he ih =>
    obtain ⟨_, hread⟩ := of_consChar_ok h
    exact (ih hread).cons (.escape c e he)
  | case18 c _ hquote hlast _ _ hmore hcontrol ih =>
    obtain ⟨_, hread⟩ := of_consChar_ok h
    exact (ih hread).cons (.plain c ⟨hquote, ne_backslash hlast hmore, Nat.not_lt.1 hcontrol⟩)
  | _ => cases h

/-- What is skipped as a string is written with letters. -/
private theorem of_afterString_ok (h : afterString text = .ok rest) : Lettered rest text := by
  fun_induction afterString text with
  | case2 =>
    obtain rfl := Except.ok.inj h
    exact lettered_nil _
  -- A skipped string need not have a meaning, so its words stand alone.
  | case4 a b c d _ hword ih =>
    obtain ⟨n, hn⟩ := Option.isSome_iff_exists.1 hword
    exact (ih h).cons (.word a b c d n hn)
  | case7 c _ _ _ hescape ih =>
    obtain ⟨e, he⟩ := Option.isSome_iff_exists.1 hescape
    exact (ih h).cons (.escape c e he)
  | case10 c _ hquote hlast _ _ hmore hcontrol ih =>
    exact (ih h).cons (.plain c ⟨hquote, ne_backslash hlast hmore, Nat.not_lt.1 hcontrol⟩)
  | _ => cases h

/-- A string that is read is made of letters. -/
theorem of_string_ok {s : String} (h : string text = .ok (s, rest)) :
    ∃ letters : List Letter, text = letters.flatMap Letter.text ++ '"' :: rest := by
  unfold string at h
  cases hbody : stringBody text with
  | error e =>
    rw [hbody] at h
    cases h
  | ok read =>
    rw [hbody] at h
    obtain ⟨-, rfl⟩ := Prod.mk.inj (Except.ok.inj h)
    exact of_stringBody_ok hbody

/-- So is a string that is passed over. -/
theorem of_skipString_ok (h : skipString text = .ok ((), rest)) :
    ∃ letters : List Letter, text = letters.flatMap Letter.text ++ '"' :: rest := by
  unfold skipString at h
  cases hafter : afterString text with
  | error e =>
    rw [hafter] at h
    cases h
  | ok after =>
    rw [hafter] at h
    obtain ⟨-, rfl⟩ := Prod.mk.inj (Except.ok.inj h)
    exact of_afterString_ok hafter

end Gamebook.Json
