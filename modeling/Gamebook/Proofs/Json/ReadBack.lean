import Gamebook.Json.Form
import Gamebook.Proofs.Json.Scalars

/-!
# Reading back forms

A form reads a value back if it takes the text that the value is laid out as off the front of a
text, whatever white space comes first, and leaves what follows. Forms of lists and pairs do so if
the forms of their parts do.

## Key results

- `ReadsBack`: whether a form reads a value back, with some levels of nesting to spare
- `readsBack_text`, `readsBack_bool`, `readsBack_uint32`, `readsBack_uint64`, `readsBack_int64`:
  the basic forms read everything back
- `Answers`: what a form makes of a value in JSON, be it a value or a problem
- `answers_list` / `answers_pair`: lists and pairs are answered by their parts
- `readsBack_list` / `readsBack_pair`: lists and pairs of what is read back
- `readsBack_some`: optional values that are there
- `readsBack_choice`: names
- `parse_pretty`: a value that is read back is read from its text
-/

namespace Gamebook

open Json (Reader Gap Closes)
open Reading

namespace Json

/-- Whether a character can be the first of a value. -/
def opensValue (c : Char) : Bool := !isSpace c && c ≠ ']'

/-- What opens a value is no white space. -/
theorem isSpace_of_opensValue {c : Char} (hc : opensValue c = true) : isSpace c = false := by
  unfold opensValue at hc
  simp only [Bool.and_eq_true, Bool.not_eq_eq_eq_not, Bool.not_true] at hc
  exact hc.1

/-- What opens a value does not close a list. -/
theorem ne_of_opensValue {c : Char} (hc : opensValue c = true) : c ≠ ']' := by
  unfold opensValue at hc
  simp only [Bool.and_eq_true, decide_eq_true_eq] at hc
  exact hc.2

/-- A digit opens a value. -/
theorem opensValue_of_isDigit {c : Char} (hc : c.isDigit) : opensValue c = true := by
  unfold opensValue isSpace
  simp only [Bool.and_eq_true, Bool.not_eq_eq_eq_not, Bool.not_true, Bool.or_eq_false_iff,
    decide_eq_false_iff_not, decide_eq_true_eq]
  refine ⟨⟨⟨⟨?_, ?_⟩, ?_⟩, ?_⟩, ?_⟩
  all_goals
    intro h
    rw [h] at hc
    exact absurd hc (by decide)

/-- The text of a whole number begins with a minus sign or a digit. -/
theorem intText_head (n : Int) : ∃ c text, intText n = c :: text ∧ (c = '-' ∨ c.isDigit) :=
  NumberText.text_ofInt n ▸ NumberText.text_head (NumberText.wellFormed_ofInt n)

/-- What begins a number opens a value. -/
theorem opensValue_of_number {c : Char} (hc : c = '-' ∨ c.isDigit) : opensValue c = true := by
  rcases hc with rfl | hc
  · decide
  · exact opensValue_of_isDigit hc

/-- A number is told from all other values by its first character. -/
theorem ne_of_number {c d : Char} (hc : c = '-' ∨ c.isDigit) (hd : ¬ (d = '-' ∨ d.isDigit)) :
    c ≠ d := fun heq => hd (heq ▸ hc)

/-- The text of a value other than a double begins with a character that says that a value
follows. -/
theorem laidOut_opens (level : Nat) (j : Json) (hj : ∀ x, j ≠ .float x) :
    ∃ c text, laidOut level j = c :: text ∧ opensValue c = true := by
  -- Each kind of value opens with a character of its own.
  cases j with
  | null => exact ⟨_, _, rfl, by decide⟩
  | bool b => cases b <;> exact ⟨_, _, rfl, by decide⟩
  | int n =>
    obtain ⟨c, text, htext, hc⟩ := intText_head n
    exact ⟨c, text, htext, opensValue_of_number hc⟩
  | float x => exact absurd rfl (hj x)
  | text s => exact ⟨_, _, rfl, by decide⟩
  | list items =>
    cases items with
    | nil => exact ⟨_, _, rfl, by decide⟩
    | cons item items => exact ⟨_, _, rfl, by decide⟩
  | object members =>
    cases members with
    | nil => exact ⟨_, _, rfl, by decide⟩
    | cons member members => exact ⟨_, _, rfl, by decide⟩

/-- Whether the text of a value may be `null`, as that of a double is that is no number. -/
def mayBeNull : Json → Bool
  | null | float _ => true
  | _ => false

/-- The text of a value that is surely not `null` begins with another letter. -/
theorem ne_of_laidOut {level : Nat} {j : Json} (hj : j.mayBeNull = false) {c : Char}
    {text : List Char} (htext : laidOut level j = c :: text) : c ≠ 'n' := by
  rintro rfl
  cases j with
  | null | float => cases hj
  | bool b => cases b <;> simp [laidOut] at htext
  | int n =>
    obtain ⟨c, digits, hint, hc⟩ := intText_head n
    obtain rfl : c = 'n' := (List.cons.inj (hint.symm.trans htext)).1
    exact absurd hc (by decide)
  | text s => simp [laidOut, stringText] at htext
  | list items => cases items <;> simp [laidOut] at htext
  | object members => cases members <;> simp [laidOut] at htext

end Json

namespace Form

variable {α β : Type}

/-- Whether a form reads a value back from the text that it is laid out as, with `depth` levels of
nesting to spare. -/
structure ReadsBack (form : Form α) (depth : Nat) (a : α) : Prop where
  /-- The text tells that a value follows. -/
  opens : ∀ level, ∃ c text, Json.laidOut level (form.toJson a) = c :: text ∧
    Json.opensValue c = true
  /-- The value is read, and what follows is left. -/
  reads : ∀ level gap rest, Gap gap → Closes rest →
    form.read depth (gap ++ (Json.laidOut level (form.toJson a) ++ rest)) = .ok (a, rest)

/-- Whether a form answers a value in JSON, when it meets the text that the value is laid out as:
what it takes from it, or the problem that it reports. -/
structure Answers (form : Form α) (depth : Nat) (j : Json) (result : Except Json.Problem α) :
    Prop where
  /-- The text tells that a value follows. -/
  opens : ∀ level, ∃ c text, Json.laidOut level j = c :: text ∧ Json.opensValue c = true
  /-- The value is read, and what follows is left, or a problem is reported. -/
  reads : ∀ level gap rest, Gap gap → Closes rest →
    form.read depth (gap ++ (Json.laidOut level j ++ rest)) = result.map (·, rest)

/-- A value that is read back is what its JSON is answered with. -/
theorem ReadsBack.answers {form : Form α} {depth : Nat} {a : α} (h : form.ReadsBack depth a) :
    form.Answers depth (form.toJson a) (.ok a) :=
  ⟨h.opens, h.reads⟩

/-- A value that its JSON is answered with is read back. -/
theorem Answers.readsBack {form : Form α} {depth : Nat} {a : α}
    (h : form.Answers depth (form.toJson a) (.ok a)) : form.ReadsBack depth a :=
  ⟨h.opens, h.reads⟩

/-- A checked form answers with the check. -/
theorem Answers.check {form : Form α} {depth : Nat} {j : Json} {result : Except Json.Problem α}
    (h : form.Answers depth j result) (forth : α → Except Json.Problem β) (back : β → α) :
    (form.check forth back).Answers depth j (result >>= forth) := by
  refine ⟨h.opens, fun level gap rest hgap hrest => ?_⟩
  refine (bind_answer _ (h.reads level gap rest hgap hrest)).trans ?_
  cases result with
  | error e => rfl
  | ok a =>
    show (liftM (forth a) : Reader β) rest = (forth a).map (·, rest)
    cases forth a <;> rfl

/-- A form in one-to-one correspondence answers like the other form. -/
theorem Answers.map {form : Form α} {depth : Nat} {j : Json} {result : Except Json.Problem α}
    (h : form.Answers depth j result) (forth : α → β) (back : β → α) :
    (form.map forth back).Answers depth j (result.map forth) := by
  refine ⟨h.opens, fun level gap rest hgap hrest => ?_⟩
  show (form.read depth >>= fun a => pure (forth a)) _ = _
  rw [bind_answer _ (h.reads level gap rest hgap hrest)]
  cases result <;> rfl

/-- A form in one-to-one correspondence reads back what the other form does. -/
theorem ReadsBack.map {form : Form α} {depth : Nat} {b : β} {forth : α → β} {back : β → α}
    (h : form.ReadsBack depth (back b)) (hback : forth (back b) = b) :
    (form.map forth back).ReadsBack depth b := by
  have hmap := h.answers.map forth back
  change (form.map forth back).Answers depth _ (.ok (forth (back b))) at hmap
  rw [hback] at hmap
  exact hmap.readsBack

/-- A checked form answers a value that is read with what it passes as. -/
theorem ReadsBack.answers_check {form : Form α} {depth : Nat} {a : α} {b : β}
    {forth : α → Except Json.Problem β} {back : β → α} (h : form.ReadsBack depth a)
    (hforth : forth a = .ok b) :
    (form.check forth back).Answers depth (form.toJson a) (.ok b) := by
  have hcheck := h.answers.check forth back
  rwa [then_ok, hforth] at hcheck

/-- A checked form reads back what passes the check. -/
theorem ReadsBack.check {form : Form α} {depth : Nat} {b : β} {forth : α → Except Json.Problem β}
    {back : β → α} (h : form.ReadsBack depth (back b)) (hback : forth (back b) = .ok b) :
    (form.check forth back).ReadsBack depth b :=
  (h.answers_check hback).readsBack

/-! ## Basic forms -/

/-- A text is read back, whatever else is said to be expected. -/
theorem readsBack_textOf (expected : String) (depth : Nat) (s : String) :
    (textOf expected).ReadsBack depth s := by
  refine ⟨fun level => Json.laidOut_opens level _ nofun,
    fun level gap rest hgap _ => ?_⟩
  show (Json.next? >>= _) (gap ++ '"' :: (s.toList.flatMap Json.escapedChar ++ ['"'] ++ rest)) = _
  rw [bind_ok _ (Json.next?_gap hgap (by decide) _)]
  simp only
  rw [bind_ok _ (Json.advance_cons _ _), List.append_assoc]
  exact Json.string_flatMap s rest

/-- A text is read back. -/
theorem readsBack_text (depth : Nat) (s : String) : text.ReadsBack depth s :=
  readsBack_textOf "a string" depth s

/-- A truth value is read back. -/
theorem readsBack_bool (depth : Nat) (b : Bool) : bool.ReadsBack depth b := by
  refine ⟨fun level => Json.laidOut_opens level _ nofun,
    fun level gap rest hgap _ => ?_⟩
  cases b with
  | true =>
    show (Json.next? >>= _) (gap ++ 't' :: (['r', 'u', 'e'] ++ rest)) = _
    rw [bind_ok _ (Json.next?_gap hgap (by decide) _)]
    exact Json.word_ok 't' ['r', 'u', 'e'] rest true
  | false =>
    show (Json.next? >>= _) (gap ++ 'f' :: (['a', 'l', 's', 'e'] ++ rest)) = _
    rw [bind_ok _ (Json.next?_gap hgap (by decide) _)]
    exact Json.word_ok 'f' ['a', 'l', 's', 'e'] rest false

/-- A whole number of 64 bits is read where a number is wanted. -/
private theorem readNumber_intText (expected : String) (n : Int) (hleast : minInt64 ≤ n)
    (hgreatest : n ≤ maxUInt64) {gap rest : List Char} (hgap : Gap gap) (hrest : Closes rest) :
    readNumber expected (gap ++ (Json.intText n ++ rest)) = .ok (.int n, rest) := by
  have hnumber := Json.number_intText n hleast hgreatest hrest
  -- The number is told by its first character, and then read from there.
  obtain ⟨c, text, htext, hc⟩ := Json.intText_head n
  rw [htext, List.cons_append] at hnumber ⊢
  have hspace := Json.isSpace_of_opensValue (Json.opensValue_of_number hc)
  show (Json.next? >>= _) (gap ++ c :: (text ++ rest)) = _
  rw [bind_ok _ (Json.next?_gap hgap hspace _)]
  simp only [if_pos hc]
  exact hnumber

/-- Whole numbers are read back within their bounds. -/
theorem readsBack_whole (expected : String) {least greatest n : Int} (depth : Nat)
    (hleast : least ≤ n) (hgreatest : n ≤ greatest) (hmin : minInt64 ≤ n) (hmax : n ≤ maxUInt64) :
    (whole expected least greatest).ReadsBack depth n := by
  refine ⟨fun level => Json.laidOut_opens level _ nofun, fun level gap rest hgap hrest => ?_⟩
  show (readNumber expected >>= _) (gap ++ (Json.intText n ++ rest)) = _
  rw [bind_ok _ (readNumber_intText expected n hmin hmax hgap hrest)]
  unfold inBounds
  simp only [if_pos (And.intro hleast hgreatest)]
  rfl

/-- A word of 32 bits lies within its own bounds, and within those of every number. -/
theorem uint32_bounds (n : UInt32) :
    (0 : Int) ≤ n.toNat ∧ (n.toNat : Int) ≤ maxUInt32 ∧ minInt64 ≤ n.toNat ∧
      (n.toNat : Int) ≤ maxUInt64 := by
  have hlt := n.toNat_lt
  unfold maxUInt32 minInt64 maxUInt64
  omega

/-- A signed word of 64 bits lies within its own bounds, and within those of every number. -/
theorem int64_bounds (n : Int64) :
    minInt64 ≤ n.toInt ∧ n.toInt ≤ maxInt64 ∧ n.toInt ≤ maxUInt64 := by
  have hlow := n.le_toInt
  have hhigh := n.toInt_lt
  unfold minInt64 maxInt64 maxUInt64
  omega

/-- A whole number of 32 bits is read back. -/
theorem readsBack_uint32 (depth : Nat) (n : UInt32) : uint32.ReadsBack depth n := by
  obtain ⟨hleast, hgreatest, hmin, hmax⟩ := uint32_bounds n
  exact ReadsBack.map (readsBack_whole "u32" depth hleast hgreatest hmin hmax) (by simp)

/-- A whole number of 64 bits is read back. -/
theorem readsBack_uint64 (depth : Nat) (n : UInt64) : uint64.ReadsBack depth n := by
  have hlt := n.toNat_lt
  refine ReadsBack.map (readsBack_whole "u64" depth ?_ ?_ ?_ ?_) (by simp)
  · omega
  · unfold maxUInt64
    omega
  · unfold minInt64
    omega
  · unfold maxUInt64
    omega

/-- A signed number of 64 bits is read back. -/
theorem readsBack_int64 (depth : Nat) (n : Int64) : int64.ReadsBack depth n := by
  obtain ⟨hleast, hgreatest, hmax⟩ := int64_bounds n
  exact ReadsBack.map (readsBack_whole "i64" depth hleast hgreatest hleast hmax) (by simp)

/-! ## Values of any form -/

/-- A truth value is read back as a value of any kind. -/
theorem readsBack_any_bool (depth : Nat) (b : Bool) : any.ReadsBack depth (.bool b) := by
  refine ⟨fun level => Json.laidOut_opens level _ nofun, fun level gap rest hgap _ => ?_⟩
  cases b with
  | true =>
    show Json.value depth (gap ++ 't' :: (['r', 'u', 'e'] ++ rest)) = _
    unfold Json.value
    rw [bind_ok _ (Json.next?_gap hgap (by decide) _)]
    exact Json.word_ok 't' ['r', 'u', 'e'] rest (Json.bool true)
  | false =>
    show Json.value depth (gap ++ 'f' :: (['a', 'l', 's', 'e'] ++ rest)) = _
    unfold Json.value
    rw [bind_ok _ (Json.next?_gap hgap (by decide) _)]
    exact Json.word_ok 'f' ['a', 'l', 's', 'e'] rest (Json.bool false)

/-- A text is read back as a value of any kind. -/
theorem readsBack_any_text (depth : Nat) (s : String) : any.ReadsBack depth (.text s) := by
  refine ⟨fun level => Json.laidOut_opens level _ nofun, fun level gap rest hgap _ => ?_⟩
  show Json.value depth
    (gap ++ '"' :: (s.toList.flatMap Json.escapedChar ++ ['"'] ++ rest)) = _
  unfold Json.value
  rw [bind_ok _ (Json.next?_gap hgap (by decide) _)]
  simp only
  rw [bind_ok _ (Json.advance_cons _ _), List.append_assoc]
  exact map_ok Json.text (Json.string_flatMap s rest)

/-- A number is read where any value is wanted. -/
theorem value_number (depth : Nat) {gap : List Char} (hgap : Gap gap) {c : Char}
    (hc : c = '-' ∨ c.isDigit) (text : List Char) :
    Json.value depth (gap ++ c :: text) = (Json.Number.toJson <$> Json.number) (c :: text) := by
  have hspace := Json.isSpace_of_opensValue (Json.opensValue_of_number hc)
  unfold Json.value
  rw [bind_ok _ (Json.next?_gap hgap hspace _)]
  -- The reader tries the other kinds of value first, and a number begins like none of them.
  have hnull : c ≠ 'n' := Json.ne_of_number hc (by decide)
  have htrue : c ≠ 't' := Json.ne_of_number hc (by decide)
  have hfalse : c ≠ 'f' := Json.ne_of_number hc (by decide)
  have hstring : c ≠ '"' := Json.ne_of_number hc (by decide)
  have hlist : c ≠ '[' := Json.ne_of_number hc (by decide)
  have hobject : c ≠ '{' := Json.ne_of_number hc (by decide)
  simp only [if_pos hc]
  rfl

/-- An integer in range is read back as a value of any kind. -/
theorem readsBack_any_int (depth : Nat) {n : Int} (hleast : minInt64 ≤ n)
    (hgreatest : n ≤ maxUInt64) : any.ReadsBack depth (.int n) := by
  refine ⟨fun level => Json.laidOut_opens level _ nofun, fun level gap rest hgap hrest => ?_⟩
  have hnumber := Json.number_intText n hleast hgreatest hrest
  obtain ⟨c, text, htext, hc⟩ := Json.intText_head n
  show Json.value depth (gap ++ (Json.intText n ++ rest)) = _
  rw [htext, List.cons_append] at hnumber ⊢
  exact (value_number depth hgap hc _).trans (map_ok _ hnumber)

/-! ## Lists and pairs -/

end Form

namespace Json

variable {gap : List Char}

/-- A list may end where an element could stand. -/
theorem hasElement_end (first : Bool) (hgap : Gap gap) (rest : List Char) :
    hasElement first (gap ++ ']' :: rest) = .ok (false, ']' :: rest) := by
  unfold hasElement
  rw [bind_ok _ (next?_gap hgap (by decide) _)]
  rfl

/-- The first element of a list follows the bracket. -/
theorem hasElement_first (hgap : Gap gap) {c : Char} (hc : opensValue c = true)
    (rest : List Char) : hasElement true (gap ++ c :: rest) = .ok (true, c :: rest) := by
  have hne := ne_of_opensValue hc
  unfold hasElement
  rw [bind_ok _ (next?_gap hgap (isSpace_of_opensValue hc) _)]
  simp only [↓reduceIte]
  rfl

/-- Every other element follows a comma. -/
theorem hasElement_next (hgap : Gap gap) {c : Char} (hc : opensValue c = true)
    (rest : List Char) : hasElement false (',' :: (gap ++ c :: rest)) = .ok (true, c :: rest) := by
  have hne := ne_of_opensValue hc
  unfold hasElement
  rw [bind_ok _ (next?_cons (by decide) _)]
  show (advance >>= _) (',' :: (gap ++ c :: rest)) = _
  rw [bind_ok _ (advance_cons _ _), bind_ok _ (next?_gap hgap (isSpace_of_opensValue hc) _)]
  simp only
  rfl

/-- A bracket closes the list. -/
theorem closeList_end (rest : List Char) : closeList (']' :: rest) = .ok ((), rest) := by
  unfold closeList
  rw [bind_ok _ (next?_cons (by decide) _)]
  rfl

/-- It does so behind white space as well. -/
theorem closeList_gap (hgap : Gap gap) (rest : List Char) :
    closeList (gap ++ ']' :: rest) = .ok ((), rest) := by
  unfold closeList
  rw [bind_ok _ (next?_gap hgap (by decide) _)]
  rfl

variable {α : Type} {item : Reader α}

/-- No elements are read where the list ends. -/
theorem elements_end (fuel : Nat) (first : Bool) (hgap : Gap gap) (rest : List Char) :
    elements item (fuel + 1) first (gap ++ ']' :: rest) = .ok ([], ']' :: rest) := by
  unfold elements
  rw [bind_ok _ (hasElement_end first hgap rest)]
  rfl

/-- An element is read, and then the others, unless there is a problem with one of them. -/
theorem elements_cons {fuel : Nat} {first : Bool} {text before after rest : List Char}
    {result : Except Problem α} {results : Except Problem (List α)}
    (hmore : hasElement first text = .ok (true, before))
    (hitem : item before = result.map (·, after))
    (hitems : elements item fuel false after = results.map (·, rest)) :
    elements item (fuel + 1) first text =
      (result >>= fun a => results.map (a :: ·)).map (·, rest) := by
  unfold elements
  rw [bind_ok _ hmore]
  simp only [↓reduceIte]
  rw [bind_answer _ hitem]
  -- A problem with the element ends the list, and otherwise the later elements are read.
  cases result with
  | error e => rfl
  | ok a =>
    rw [then_ok, then_ok, bind_answer _ hitems]
    cases results <;> rfl

/-- The elements of a list are read, and then its end. -/
theorem listFrom_answer {first : Bool} {text rest : List Char} {results : Except Problem (List α)}
    (hitems : elements item (text.length + 1) first text = results.map (·, ']' :: rest)) :
    listFrom first item text = results.map (·, rest) := by
  unfold listFrom
  rw [bind_ok _ (get_ok text), bind_answer _ hitems]
  cases results with
  | error e => rfl
  | ok items =>
    rw [then_ok, bind_ok _ (closeList_end rest)]
    rfl

end Json

namespace Form

variable {form : Form α} {depth : Nat}

/-- The text of a list from after its first element on. -/
private def restOfList (level : Nat) (items : List Json) (rest : List Char) : List Char :=
  Json.laidOutItems (level + 1) items ++ (Json.newline level ++ ']' :: rest)

/-- Behind an element come a comma, a new line and the next one. -/
private theorem restOfList_cons (level : Nat) (j : Json) (items : List Json) (rest : List Char) :
    restOfList level (j :: items) rest =
      ',' :: (Json.newline (level + 1) ++
        (Json.laidOut (level + 1) j ++ restOfList level items rest)) := by
  unfold restOfList
  simp [Json.laidOutItems, List.append_assoc]

/-- A number ends before what follows in a list. -/
private theorem closes_restOfList (level : Nat) (items : List Json) (rest : List Char) :
    Closes (restOfList level items rest) := by
  cases items with
  | nil => exact Json.closes_newline level _
  | cons j items =>
    rw [restOfList_cons]
    exact Json.closes_cons (by decide) _

/-- What follows in a list is longer than its elements are many. -/
private theorem length_lt_restOfList (level : Nat) (items : List Json) (rest : List Char) :
    items.length < (restOfList level items rest).length := by
  induction items with
  | nil => simp [restOfList, Json.laidOutItems, Json.newline]
  | cons j items ih =>
    rw [restOfList_cons]
    simp only [List.length_cons, List.length_append]
    omega

variable {toJson : β → Json} {result : β → Except Json.Problem α}

/-- Problems come from the first element that has one. -/
private theorem mapM_cons (b : β) (items : List β) :
    (b :: items).mapM result = result b >>= fun a => (items.mapM result).map (a :: ·) := by
  rw [List.mapM_cons]
  cases result b with
  | error e => rfl
  | ok a => cases items.mapM result <;> rfl

/-- The elements after the first are read up to the end of the list, with fuel for each and for the
end. -/
private theorem elements_restOfList (level : Nat) (rest : List Char) (items : List β)
    (hitems : ∀ b ∈ items, form.Answers depth (toJson b) (result b)) (fuel : Nat)
    (hfuel : items.length < fuel) :
    Json.elements (form.read depth) fuel false (restOfList level (items.map toJson) rest) =
      (items.mapM result).map (·, ']' :: rest) := by
  induction items generalizing fuel with
  | nil =>
    -- Each element uses up one unit of fuel, and so does the end of the list.
    obtain ⟨fuel, rfl⟩ := Nat.exists_eq_add_one_of_ne_zero (Nat.ne_zero_of_lt hfuel)
    exact Json.elements_end fuel false (Json.gap_newline level) rest
  | cons b items ih =>
    obtain ⟨fuel, rfl⟩ := Nat.exists_eq_add_one_of_ne_zero (Nat.ne_zero_of_lt hfuel)
    have hb := hitems b List.mem_cons_self
    -- The reader must see that an element follows before it reads it.
    obtain ⟨c, text, htext, hc⟩ := hb.opens (level + 1)
    have hread := hb.reads (level + 1) [] _ Json.gap_nil
      (closes_restOfList level (items.map toJson) rest)
    have hrest := ih (fun b hb => hitems b (List.mem_cons_of_mem _ hb)) fuel
      (by simp at hfuel; omega)
    rw [List.map_cons, restOfList_cons, mapM_cons]
    rw [htext, List.cons_append] at hread ⊢
    exact Json.elements_cons (Json.hasElement_next (Json.gap_newline (level + 1)) hc _) hread hrest

/-- A list is answered with the answers to its elements, or with the first problem among them. -/
theorem answers_list {items : List β}
    (hitems : ∀ b ∈ items, form.Answers depth (toJson b) (result b)) :
    form.list.Answers (depth + 1) (.list (items.map toJson)) (items.mapM result) := by
  refine ⟨fun level => Json.laidOut_opens level _ nofun, fun level gap rest hgap _ => ?_⟩
  -- All that matters is how the text goes on after the bracket.
  suffices hafter : ∀ after, Json.laidOut level (.list (items.map toJson)) ++ rest = '[' :: after →
      Json.listFrom true (form.read depth) after = (items.mapM result).map (·, rest) by
    have hbracket : ∃ after,
        Json.laidOut level (.list (items.map toJson)) ++ rest = '[' :: after := by
      -- An empty list is written without a new line, but it opens in the same way.
      cases items with
      | nil => exact ⟨_, rfl⟩
      | cons b items => exact ⟨_, rfl⟩
    obtain ⟨after, htext⟩ := hbracket
    rw [htext]
    show (Json.next? >>= _) (gap ++ '[' :: after) = _
    rw [bind_ok _ (Json.next?_gap hgap (by decide) _)]
    show (Json.advance >>= _) ('[' :: after) = _
    rw [bind_ok _ (Json.advance_cons _ _)]
    exact hafter after htext
  intro after htext
  cases items with
  | nil =>
    obtain rfl : ']' :: rest = after := (List.cons.inj htext).2
    exact Json.listFrom_answer (Json.elements_end _ true Json.gap_nil rest)
  | cons b items =>
    have hb := hitems b List.mem_cons_self
    obtain ⟨c, text, hvalue, hc⟩ := hb.opens (level + 1)
    have hread := hb.reads (level + 1) [] _ Json.gap_nil
      (closes_restOfList level (items.map toJson) rest)
    have hsplit : after = Json.newline (level + 1) ++
        (Json.laidOut (level + 1) (toJson b) ++ restOfList level (items.map toJson) rest) := by
      have h : '[' :: after = '[' :: (Json.newline (level + 1) ++
          (Json.laidOut (level + 1) (toJson b) ++ restOfList level (items.map toJson) rest)) := by
        rw [← htext]
        simp [Json.laidOut, restOfList, List.append_assoc]
      exact (List.cons.inj h).2
    have hlength := length_lt_restOfList level (items.map toJson) rest
    rw [List.length_map] at hlength
    rw [hsplit, mapM_cons]
    rw [hvalue, List.cons_append] at hread ⊢
    -- Every element takes up some of the text, so the text is long enough to count them by.
    refine Json.listFrom_answer (Json.elements_cons
      (Json.hasElement_first (Json.gap_newline (level + 1)) hc _) hread ?_)
    refine elements_restOfList level rest items (fun b hb => hitems b (List.mem_cons_of_mem _ hb)) _
      ?_
    simp only [List.length_append, List.length_cons]
    omega

/-- Lists of what is read back are read back. -/
theorem readsBack_list {items : List α} (hitems : ∀ a ∈ items, form.ReadsBack depth a) :
    form.list.ReadsBack (depth + 1) items := by
  have hlist : form.list.Answers (depth + 1) (.list (items.map form.toJson))
      (items.mapM fun a => pure a) := answers_list fun a ha => (hitems a ha).answers
  rw [List.mapM_pure, List.map_id'] at hlist
  exact hlist.readsBack

/-- A pair is answered with the answers to its parts. -/
theorem answers_pair {second : Form β} {j k : Json} {resultA : Except Json.Problem α}
    {resultB : Except Json.Problem β} (hfirst : form.Answers depth j resultA)
    (hsecond : second.Answers depth k resultB) :
    (form.pair second).Answers (depth + 1) (.list [j, k])
      (resultA >>= fun a => resultB.map (a, ·)) := by
  refine ⟨fun level => Json.laidOut_opens level _ nofun, fun level gap rest hgap _ => ?_⟩
  obtain ⟨c, textA, hA, hc⟩ := hfirst.opens (level + 1)
  obtain ⟨d, textB, hB, hd⟩ := hsecond.opens (level + 1)
  have hsplit : Json.laidOut level (.list [j, k]) ++ rest =
      '[' :: (Json.newline (level + 1) ++ (Json.laidOut (level + 1) j ++
        ',' :: (Json.newline (level + 1) ++ (Json.laidOut (level + 1) k ++
          (Json.newline level ++ ']' :: rest))))) := by
    simp [Json.laidOut, Json.laidOutItems, List.append_assoc]
  -- Each part is read from a text that goes on with the rest of the list.
  have hreadA := hfirst.reads (level + 1) []
    (',' :: (Json.newline (level + 1) ++ (Json.laidOut (level + 1) k ++
      (Json.newline level ++ ']' :: rest)))) Json.gap_nil (Json.closes_cons (by decide) _)
  have hreadB := hsecond.reads (level + 1) [] (Json.newline level ++ ']' :: rest) Json.gap_nil
    (Json.closes_newline level _)
  rw [hsplit]
  rw [hA, List.nil_append, List.cons_append] at hreadA
  rw [hB, List.nil_append, List.cons_append] at hreadB
  rw [hB, List.cons_append] at hreadA ⊢
  rw [hA, List.cons_append]
  show (Json.next? >>= _) (gap ++ '[' :: _) = _
  rw [bind_ok _ (Json.next?_gap hgap (by decide) _)]
  show (Json.advance >>= _) ('[' :: _) = _
  rw [bind_ok _ (Json.advance_cons _ _),
    bind_ok _ (Json.hasElement_first (Json.gap_newline (level + 1)) hc _)]
  show (form.read depth >>= _) _ = _
  rw [bind_answer _ hreadA]
  cases resultA with
  -- A problem with the first part is the answer, and the second part is not read.
  | error e => rfl
  | ok a =>
    rw [then_ok, bind_ok _ (Json.hasElement_next (Json.gap_newline (level + 1)) hd _)]
    show (second.read depth >>= _) _ = _
    rw [bind_answer _ hreadB]
    cases resultB with
    | error e => rfl
    | ok b =>
      rw [then_ok, bind_ok _ (Json.closeList_gap (Json.gap_newline level) rest)]
      rfl

/-- Pairs of what is read back are read back. -/
theorem readsBack_pair {second : Form β} {p : α × β} (hfirst : form.ReadsBack depth p.1)
    (hsecond : second.ReadsBack depth p.2) : (form.pair second).ReadsBack (depth + 1) p :=
  (answers_pair hfirst.answers hsecond.answers).readsBack

/-! ## Optional values and names -/

/-- An optional value that is there is read back, if its text cannot be taken for `null`. -/
theorem readsBack_some {a : α} (h : form.ReadsBack depth a)
    (hnull : (form.toJson a).mayBeNull = false) : form.optional.ReadsBack depth (some a) := by
  refine ⟨h.opens, fun level gap rest hgap hrest => ?_⟩
  have hread := h.reads level [] rest Json.gap_nil hrest
  obtain ⟨c, text, htext, hc⟩ := h.opens level
  -- The value is not written as the word for nothing, so it is read as a value.
  have hne : some c ≠ some 'n' := fun h =>
    Json.ne_of_laidOut hnull htext (Option.some.inj h)
  show form.optional.read depth (gap ++ (Json.laidOut level (form.toJson a) ++ rest)) = _
  rw [htext, List.nil_append, List.cons_append] at hread
  rw [htext, List.cons_append]
  show (Json.next? >>= _) (gap ++ c :: (text ++ rest)) = _
  rw [bind_ok _ (Json.next?_gap hgap (Json.isSpace_of_opensValue hc) _)]
  simp only
  exact map_ok some hread

/-- A name is read back as the value that it stands for. -/
theorem readsBack_choice {cases : List (String × α)} {nameOf : α → String} (depth : Nat) {a : α}
    (hname : cases.lookup (nameOf a) = some a) : (choice cases nameOf).ReadsBack depth a := by
  refine ⟨fun level => Json.laidOut_opens level _ nofun, fun level gap rest hgap _ => ?_⟩
  show (Json.next? >>= _)
    (gap ++ '"' :: ((nameOf a).toList.flatMap Json.escapedChar ++ ['"'] ++ rest)) = _
  rw [bind_ok _ (Json.next?_gap hgap (by decide) _)]
  simp only
  rw [bind_ok _ (Json.advance_cons _ _), List.append_assoc]
  refine (bind_ok _ (Json.string_flatMap (nameOf a) rest)).trans ?_
  unfold named
  rw [hname]
  rfl

/-! ## Whole texts -/

/-- The text of a value is answered like its JSON. -/
theorem Answers.parse_pretty {a : α} {result : Except Json.Problem α}
    (h : form.Answers Json.maxDepth (form.toJson a) result) :
    form.parse (form.pretty a) = result := by
  have hread := h.reads 0 [] [] Json.gap_nil Json.closes_nil
  rw [List.nil_append, List.append_nil] at hread
  unfold parse pretty Json.pretty Json.readAll
  rw [String.toList_ofList, hread]
  cases result <;> rfl

/-- A value that is read back is read from its text. -/
theorem parse_pretty {a : α} (h : form.ReadsBack Json.maxDepth a) :
    form.parse (form.pretty a) = .ok a :=
  h.answers.parse_pretty

end Form

end Gamebook
