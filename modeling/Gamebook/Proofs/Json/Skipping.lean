import Gamebook.Proofs.Json.ScriptReading

/-!
# Values that nobody asked for

A value that nobody asked for is passed over, whatever it is: with strings that spell nothing and
numbers that are too large, and nested to any depth. The fuel of the reader is twice the length of
the text, which is enough since every second step at least takes a character.

## Key results

- `skipValue_text`: every script is passed over
-/

namespace Gamebook.Json

open Reading
open Script (itemsText membersText)

variable {gap rest : List Char}

/-- Whether a script is passed over, with fuel for twice the length of its text. -/
private def Skips (script : Script) : Prop :=
  ∀ fuel gap rest, 2 * script.text.length ≤ fuel → Gap gap → Closes rest →
    skipValueWithin fuel (gap ++ (script.text ++ rest)) = .ok ((), rest)

/-- A number is passed over part by part. -/
private theorem skipValueWithin_number (fuel : Nat) (n : Numeral) (hgap : Gap gap)
    (hrest : Closes rest) :
    skipValueWithin (fuel + 1) (gap ++ ((Script.token (.number n)).text ++ rest)) =
      .ok ((), rest) := by
  have hread := NumberText.numberText_append (.breach .badNumber) n.wellFormed n.isMark hrest
  have htext : (Script.token (.number n)).text ++ rest =
      (if n.parts.negative then ['-'] else []) ++ (n.parts.whole ++ (n.parts.fractionPart ++
        (n.parts.markedExponent n.mark ++ rest))) := by
    show n.parts.spelled n.mark ++ rest = _
    unfold NumberText.spelled
    simp only [List.append_assoc]
  rw [htext]
  unfold skipValueWithin
  cases hnegative : n.parts.negative with
  | true =>
    rw [hnegative] at hread
    simp only [↓reduceIte, List.cons_append, List.nil_append]
    rw [bind_ok _ (next?_gap hgap (by decide) _)]
    exact (bind_ok _ (advance_cons _ _)).trans (map_ok _ hread)
  | false =>
    -- A digit is told from all that begins another value.
    obtain ⟨c, digits, hwhole⟩ := List.exists_cons_of_ne_nil n.wellFormed.whole_ne
    have hdigit : c.isDigit := n.wellFormed.whole_digits c (hwhole ▸ List.mem_cons_self)
    have hspace := isSpace_of_opensValue (opensValue_of_isDigit hdigit)
    have hnull : c ≠ 'n' := ne_of_number (.inr hdigit) (by decide)
    have htrue : c ≠ 't' := ne_of_number (.inr hdigit) (by decide)
    have hfalse : c ≠ 'f' := ne_of_number (.inr hdigit) (by decide)
    have hstring : c ≠ '"' := ne_of_number (.inr hdigit) (by decide)
    have hlist : c ≠ '[' := ne_of_number (.inr hdigit) (by decide)
    have hobject : c ≠ '{' := ne_of_number (.inr hdigit) (by decide)
    have hminus : c ≠ '-' := fun heq => absurd (heq ▸ hdigit) (by decide)
    rw [hnegative, hwhole] at hread
    rw [hwhole]
    simp only [Bool.false_eq_true, ↓reduceIte, List.cons_append, List.nil_append] at hread ⊢
    rw [bind_ok _ (next?_gap hgap hspace _)]
    simp only [hdigit, ↓reduceIte]
    exact map_ok _ hread

/-- What has no parts is skipped. -/
private theorem skips_token (t : Token) : Skips (.token t) := by
  intro fuel gap rest hfuel hgap hrest
  -- There is fuel for a first character, since every token has one.
  obtain ⟨fuel, rfl⟩ : ∃ k, fuel = k + 1 := Nat.exists_eq_add_one_of_ne_zero (by
    obtain ⟨text, htext⟩ := (Script.token t).text_eq_opening
    rw [htext, List.length_cons] at hfuel
    omega)
  cases t with
  | number n => exact skipValueWithin_number fuel n hgap hrest
  | null =>
    unfold skipValueWithin
    rw [bind_ok _ (Script.next?_text _ hgap rest)]
    exact (bind_ok _ (advance_cons _ _)).trans (word_append ['u', 'l', 'l'] rest)
  | bool b =>
    unfold skipValueWithin
    rw [bind_ok _ (Script.next?_text _ hgap rest)]
    cases b with
    | true => exact (bind_ok _ (advance_cons _ _)).trans (word_append ['r', 'u', 'e'] rest)
    | false => exact (bind_ok _ (advance_cons _ _)).trans (word_append ['a', 'l', 's', 'e'] rest)
  | string letters =>
    unfold skipValueWithin
    rw [bind_ok _ (Script.next?_text _ hgap rest)]
    rw [Script.text_string]
    exact (bind_ok _ (advance_cons _ _)).trans (skipString_letters letters rest)

/-- The elements of a list are passed over, once the white space before the first is. -/
private theorem skipElements_items {x : Spaced Script} {items : List (Spaced Script)}
    (hitems : ∀ y ∈ x :: items, Skips y.it) (fuel : Nat) (hgap : Gap gap) (rest : List Char)
    (hfuel : 2 * (x.it.text.length + (itemsText false items).length) + 1 ≤ fuel) :
    skipElements fuel
      (gap ++ (x.it.text ++ (x.after.text ++ (itemsText false items ++ ']' :: rest)))) =
        .ok ((), rest) := by
  -- The fuel is bounded by the length of the text, which shrinks with every element.
  induction items generalizing x gap fuel with
  | nil =>
    obtain ⟨fuel, rfl⟩ : ∃ k, fuel = k + 1 := Nat.exists_eq_add_one_of_ne_zero (by omega)
    have hx := hitems x List.mem_cons_self fuel gap _ (by omega) hgap
      (closes_gap x.after.isGap (closes_itemsText [] rest))
    unfold skipElements
    refine (bind_ok _ hx).trans ((next?_bind_gap x.after.isGap _ _).trans ?_)
    exact (bind_ok _ (next?_cons (by decide) _)).trans (advance_cons _ _)
  | cons y items ih =>
    obtain ⟨fuel, rfl⟩ : ∃ k, fuel = k + 1 := Nat.exists_eq_add_one_of_ne_zero (by omega)
    have hx := hitems x List.mem_cons_self fuel gap _ (by omega) hgap
      (closes_gap x.after.isGap (closes_itemsText (y :: items) rest))
    have hlength := congrArg List.length (Script.itemsText_cons false y items [])
    -- The comma and the first character of the element pay for the fuel that it takes.
    simp only [List.append_nil, List.length_append, comma, Bool.false_eq_true, ↓reduceIte,
      List.length_singleton] at hlength
    unfold skipElements
    refine (bind_ok _ hx).trans ((next?_bind_gap x.after.isGap _ _).trans ?_)
    rw [Script.itemsText_cons]
    refine (bind_ok _ (next?_cons (by decide) _)).trans ((bind_ok _ (advance_cons _ _)).trans ?_)
    exact ih (fun z hz => hitems z (List.mem_cons_of_mem _ hz)) fuel y.before.isGap (by omega)

/-- A member is passed over up to what follows its value. -/
private theorem skipMembers_member {m : Script.Member} {fuel : Nat} (hm : Skips m.2.it)
    (hfuel : 2 * m.2.it.text.length ≤ fuel) (hgap : Gap gap) {text : List Char}
    (htext : Closes text) :
    skipMembers (fuel + 1) (gap ++ '"' :: (m.1.it.flatMap Letter.text ++ '"' :: (m.1.after.text ++
      ':' :: (m.2.before.text ++ (m.2.it.text ++ (m.2.after.text ++ text)))))) =
    (next? >>= fun c => match c with
      | none => endedIn .object
      | some '}' => advance
      | some ',' => do
        advance
        skipMembers fuel
      | some _ => breached .objectGoesOn) text := by
  have hvalue := hm fuel m.2.before.text _ hfuel m.2.before.isGap (closes_gap m.2.after.isGap htext)
  have hquote := next?_gap hgap (by decide : isSpace '"' = false)
  -- The reader stands on the right as well, for the members that follow.
  conv =>
    lhs
    unfold skipMembers
  refine (bind_ok _ (hquote _)).trans ((bind_ok _ (advance_cons _ _)).trans ?_)
  refine (bind_ok _ (skipString_letters m.1.it _)).trans ?_
  refine (bind_ok _ (colon_gap m.1.after.isGap _)).trans ((bind_ok _ hvalue).trans ?_)
  exact next?_bind_gap m.2.after.isGap _ _

/-- The members of an object are passed over, once the white space before the first is. -/
private theorem skipMembers_members {m : Script.Member} {members : List Script.Member}
    (hmembers : ∀ k ∈ m :: members, Skips k.2.it) (fuel : Nat) (hgap : Gap gap) (rest : List Char)
    (hfuel : 2 * (m.2.it.text.length + (membersText false members).length) + 1 ≤ fuel) :
    skipMembers fuel (gap ++ '"' :: (m.1.it.flatMap Letter.text ++ '"' :: (m.1.after.text ++
      ':' :: (m.2.before.text ++ (m.2.it.text ++ (m.2.after.text ++
        (membersText false members ++ '}' :: rest))))))) = .ok ((), rest) := by
  -- As for elements, but the name and the colon stand before each value.
  induction members generalizing m gap fuel with
  | nil =>
    obtain ⟨fuel, rfl⟩ : ∃ k, fuel = k + 1 := Nat.exists_eq_add_one_of_ne_zero (by omega)
    have hm := hmembers m List.mem_cons_self
    refine (skipMembers_member hm (by omega) hgap (closes_membersText [] rest)).trans ?_
    exact (bind_ok _ (next?_cons (by decide) _)).trans (advance_cons _ _)
  | cons k members ih =>
    obtain ⟨fuel, rfl⟩ : ∃ k, fuel = k + 1 := Nat.exists_eq_add_one_of_ne_zero (by omega)
    have hm := hmembers m List.mem_cons_self
    have hlength := congrArg List.length (Script.membersText_cons false k members [])
    -- The comma and the quotes pay for the fuel that the member takes.
    simp only [List.append_nil, List.length_append, List.length_cons, comma, Bool.false_eq_true,
      ↓reduceIte, List.length_nil] at hlength
    refine (skipMembers_member hm (by omega) hgap (closes_membersText (k :: members) rest)).trans ?_
    rw [Script.membersText_cons]
    refine (bind_ok _ (next?_cons (by decide) _)).trans ((bind_ok _ (advance_cons _ _)).trans ?_)
    exact ih (fun z hz => hmembers z (List.mem_cons_of_mem _ hz)) fuel k.1.before.isGap (by omega)

/-- Every value is skipped as a whole. -/
private theorem skips (script : Script) : Skips script := by
  -- A list or an object spends fuel on itself and on each of its parts, and each of them has a
  -- character of its own, a bracket or a comma.
  induction script using Script.induction with
  | token t => exact skips_token t
  | list blank items ih =>
    intro fuel gap rest hfuel hgap _
    have hlength := congrArg List.length (Script.text_list blank items [])
    simp only [List.append_nil, List.length_append, List.length_cons] at hlength
    obtain ⟨fuel, rfl⟩ : ∃ k, fuel = k + 1 := Nat.exists_eq_add_one_of_ne_zero (by omega)
    unfold skipValueWithin
    rw [bind_ok _ (Script.next?_text _ hgap rest), Script.text_list]
    refine (bind_ok _ (advance_cons _ _)).trans ((next?_bind_gap blank.isGap _ _).trans ?_)
    cases items with
    | nil => exact (bind_ok _ (next?_cons (by decide) _)).trans (advance_cons _ _)
    | cons x items =>
      have hitems := congrArg List.length (Script.itemsText_cons true x items [])
      simp only [List.append_nil, List.length_append] at hitems
      -- No element opens with the closing bracket.
      have hne := ne_of_opensValue x.it.opensValue_opening
      have hnext := x.it.next?_text x.before.isGap
        (x.after.text ++ (itemsText false items ++ ']' :: rest))
      rw [Script.itemsText_cons]
      refine (bind_ok _ hnext).trans ?_
      simp only
      exact skipElements_items ih fuel gap_nil rest (by omega)
  | object blank members ih =>
    intro fuel gap rest hfuel hgap _
    have hlength := congrArg List.length (Script.text_object blank members [])
    simp only [List.append_nil, List.length_append, List.length_cons] at hlength
    obtain ⟨fuel, rfl⟩ : ∃ k, fuel = k + 1 := Nat.exists_eq_add_one_of_ne_zero (by omega)
    unfold skipValueWithin
    rw [bind_ok _ (Script.next?_text _ hgap rest), Script.text_object]
    refine (bind_ok _ (advance_cons _ _)).trans ((next?_bind_gap blank.isGap _ _).trans ?_)
    cases members with
    | nil => exact (bind_ok _ (next?_cons (by decide) _)).trans (advance_cons _ _)
    | cons m members =>
      have hmembers := congrArg List.length (Script.membersText_cons true m members [])
      simp only [List.append_nil, List.length_append, List.length_cons] at hmembers
      rw [Script.membersText_cons]
      refine (bind_ok _ (next?_gap m.1.before.isGap (by decide) _)).trans ?_
      exact skipMembers_members ih fuel gap_nil rest (by omega)

/-- Every script is passed over. -/
theorem skipValue_text (script : Script) (hgap : Gap gap) (hrest : Closes rest) :
    skipValue (gap ++ (script.text ++ rest)) = .ok ((), rest) := by
  unfold skipValue
  rw [bind_ok _ (get_ok _)]
  refine skips script _ gap rest ?_ hgap hrest
  simp only [List.length_append]
  omega

end Gamebook.Json
