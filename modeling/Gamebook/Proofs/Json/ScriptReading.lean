import Gamebook.Proofs.Json.Script
import Gamebook.Proofs.Json.Yields

/-!
# Reading scripts

What a reader makes of the text of a script does not depend on the white space before it or on the
text after it. Lists and objects are read part by part, so what comes of them is made of what comes
of their parts.

## Key results

- `Gives`, `outcome`: what a reader makes of a script
- `string_letters`: a string is read as what its letters spell
- `listFrom_items`: lists are made of their elements
- `objectFrom_members`: objects are made of their members, one after the other
- `gives_valueParts`: any value is made of its parts
-/

namespace Gamebook.Json

open Reading

variable {α : Type} {gap rest : List Char}

/-! ## White space -/

/-- White space behind white space is white space. -/
theorem gap_append {gap' : List Char} (hgap : Gap gap) (hgap' : Gap gap') : Gap (gap ++ gap') :=
  fun c hc => (List.mem_append.1 hc).elim (hgap c) (hgap' c)

/-- White space ends a number. -/
theorem goesOn_of_isSpace {c : Char} (hc : isSpace c = true) : goesOn c = false := by
  unfold isSpace at hc
  simp only [Bool.or_eq_true, decide_eq_true_eq] at hc
  rcases hc with ((rfl | rfl) | rfl) | rfl <;> decide

/-- A number ends before white space, if it ends before what follows that. -/
theorem closes_gap (hgap : Gap gap) (hrest : Closes rest) : Closes (gap ++ rest) := by
  cases gap with
  | nil => exact hrest
  | cons c gap => exact closes_cons (goesOn_of_isSpace (hgap c List.mem_cons_self)) _

/-- White space in front makes no difference to a reader that looks for the next character. -/
theorem next?_bind_gap (hgap : Gap gap) (f : Option Char → Reader α) (text : List Char) :
    (next? >>= f) (gap ++ text) = (next? >>= f) text := by
  have hnext : next? (gap ++ text) = next? text := by
    show Except.ok (((gap ++ text).dropWhile isSpace).head?, (gap ++ text).dropWhile isSpace) = _
    rw [List.dropWhile_append_of_pos hgap]
    rfl
  show (next? (gap ++ text) >>= fun p => f p.1 p.2) = _
  rw [hnext]
  rfl

/-! ## Outcomes -/

/-- Whether a reader makes a result of a script, whatever white space comes first, and leaves what
follows. -/
def Gives (reader : Reader α) (script : Script) (result : Option α) : Prop :=
  ∀ gap rest, Gap gap → Closes rest →
    (reader (gap ++ (script.text ++ rest))).toOption = result.map (·, rest)

/-- What a reader makes of a script that stands alone. -/
def outcome (reader : Reader α) (script : Script) : Option α :=
  (reader script.text).toOption.map Prod.fst

/-- What a reader makes of a script anywhere is what it makes of it alone. -/
theorem Gives.outcome_eq {reader : Reader α} {script : Script} {result : Option α}
    (h : Gives reader script result) : outcome reader script = result := by
  have hread := h [] [] gap_nil closes_nil
  rw [List.nil_append, List.append_nil] at hread
  unfold outcome
  rw [hread]
  cases result <;> rfl

/-- Whatever a reader gives is what it makes of the script alone. -/
theorem Gives.outcome {reader : Reader α} {script : Script} {result : Option α}
    (h : Gives reader script result) : Gives reader script (outcome reader script) :=
  h.outcome_eq ▸ h

/-- So it is without white space. -/
theorem Gives.bare {reader : Reader α} {script : Script} {result : Option α}
    (h : Gives reader script result) (hrest : Closes rest) :
    (reader (script.text ++ rest)).toOption = result.map (·, rest) :=
  h [] rest gap_nil hrest

/-! ## Strings -/

/-- A character is put before what is read. -/
private theorem toOption_consChar (c : Char) (result : Except Problem (List Char × List Char)) :
    (consChar c result).toOption = result.toOption.map fun read => (c :: read.1, read.2) := by
  cases result <;> rfl

/-- What comes of a letter and of those after it. -/
private theorem map_cons_eq (c : Char) (chars? : Option (List Char)) (rest : List Char) :
    ((chars?.map (·, rest)).map fun read => (c :: read.1, read.2)) =
      (chars?.map (c :: ·)).map (·, rest) := by
  cases chars? <;> rfl

/-- The letter that begins a word is no escape. -/
private theorem ne_of_escapeLetter {c e : Char} (h : escapeLetter c = some e) : c ≠ 'u' := by
  rintro rfl
  have hnone : escapeLetter 'u' = none := by decide
  rw [hnone] at h
  cases h

/-- A plain character is read as itself. -/
private theorem stringBody_plain {c : Char} (h : c ≠ '"' ∧ c ≠ '\\' ∧ 0x20 ≤ c.toNat)
    (text : List Char) : stringBody (c :: text) = consChar c (stringBody text) := by
  rw [stringBody]
  · rw [if_neg (by omega)]
  all_goals simp_all

/-- An escaped letter is read as the character that it stands for. -/
private theorem stringBody_escape {c e : Char} (h : escapeLetter c = some e) (text : List Char) :
    stringBody ('\\' :: c :: text) = consChar e (stringBody text) := by
  have hne := ne_of_escapeLetter h
  rw [stringBody]
  · rw [h]
  all_goals simp_all

/-- The letters of a string are read as the characters that they spell, if they spell any. -/
theorem stringBody_letters (letters : List Letter) (rest : List Char) :
    (stringBody (letters.flatMap Letter.text ++ '"' :: rest)).toOption =
      (Letter.chars? letters).map (·, rest) := by
  -- One case for each way in which letters go on or come to nothing.
  fun_induction Letter.chars? letters with
  | case1 => simp [stringBody, Except.toOption]
  | case2 c h letters ih =>
    have hread := stringBody_plain h (letters.flatMap Letter.text ++ '"' :: rest)
    exact (congrArg _ hread).trans (by rw [toOption_consChar, ih, map_cons_eq])
  | case3 c e h letters ih =>
    have hread := stringBody_escape h (letters.flatMap Letter.text ++ '"' :: rest)
    exact (congrArg _ hread).trans (by rw [toOption_consChar, ih, map_cons_eq])
  | case4 a b c d n h letters htrailing =>
    simp [Letter.text, stringBody, h, htrailing, Except.toOption]
  | case5 a b c d n h htrailing hleading a' b' c' d' m h' letters hm ih =>
    -- Both halves of a pair are read at once.
    simp only [List.flatMap_cons, Letter.text, List.cons_append, List.nil_append]
    rw [stringBody]
    simp only [h, htrailing, hleading, h', hm, Bool.false_eq_true, ↓reduceIte]
    rw [toOption_consChar, ih, map_cons_eq]
  | case6 a b c d n h htrailing hleading a' b' c' d' m h' letters hm =>
    simp [Letter.text, stringBody, h, htrailing, hleading, h', hm, Except.toOption]
  | case7 a b c d n h letters htrailing hleading hother =>
    -- A first half is followed by the closing quote or by another letter.
    cases letters with
    | nil => simp [Letter.text, stringBody, h, htrailing, hleading, Except.toOption]
    | cons letter letters =>
      cases letter with
      | word => exact absurd rfl (hother _ _ _ _ _ _ _)
      | plain c' hc' => simp [Letter.text, stringBody, h, htrailing, hleading, Except.toOption, hc']
      | escape c' e hc' =>
        have hne := ne_of_escapeLetter hc'
        simp [Letter.text, stringBody, h, htrailing, hleading, Except.toOption, hne]
  | case8 a b c d n h letters htrailing hleading ih =>
    simp only [List.flatMap_cons, Letter.text, List.cons_append, List.nil_append]
    rw [stringBody]
    simp only [h, htrailing, hleading, Bool.false_eq_true, ↓reduceIte]
    rw [toOption_consChar, ih, map_cons_eq]

/-- A string is read as what its letters spell. -/
theorem string_letters (letters : List Letter) (rest : List Char) :
    (string (letters.flatMap Letter.text ++ '"' :: rest)).toOption =
      (Letter.name? letters).map (·, rest) := by
  have hbody := stringBody_letters letters rest
  unfold string Letter.name?
  cases hchars : Letter.chars? letters with
  -- Letters that spell nothing are a problem, whichever it is.
  | none =>
    rw [hchars] at hbody
    cases hread : stringBody (letters.flatMap Letter.text ++ '"' :: rest) with
    | error e => rfl
    | ok read =>
      rw [hread] at hbody
      cases hbody
  | some chars =>
    rw [hchars] at hbody
    rw [toOption_eq_some.1 hbody]
    rfl

/-- A string that nobody asked for is passed over, whatever its letters spell. -/
theorem skipString_letters (letters : List Letter) (rest : List Char) :
    skipString (letters.flatMap Letter.text ++ '"' :: rest) = .ok ((), rest) := by
  have hafter : afterString (letters.flatMap Letter.text ++ '"' :: rest) = .ok rest := by
    -- Every letter is left behind as a whole, whether or not it has a meaning.
    induction letters with
    | nil => simp [afterString]
    | cons letter letters ih =>
      rw [List.flatMap_cons, List.append_assoc, ← ih]
      cases letter with
      | plain c h =>
        simp only [Letter.text, List.cons_append, List.nil_append]
        rw [afterString]
        · rw [if_neg (by omega)]
        all_goals simp_all
      | escape c e h =>
        have hne := ne_of_escapeLetter h
        simp only [Letter.text, List.cons_append, List.nil_append]
        rw [afterString]
        · rw [h]
          rfl
        all_goals simp_all
      | word a b c d n h => simp [Letter.text, afterString, h]
  unfold skipString
  rw [hafter]

/-! ## Lists and objects -/

namespace Script

variable {items : List (Spaced Script)} {members : List Script.Member}

/-- A string as it stands in a text. -/
theorem text_string (letters : List Letter) (rest : List Char) :
    (token (.string letters)).text ++ rest =
      '"' :: (letters.flatMap Letter.text ++ '"' :: rest) := by
  simp [text, Token.text, quotedLetters]

/-- A list is written between brackets. -/
theorem text_list (blank : Blank) (items : List (Spaced Script)) (rest : List Char) :
    (list blank items).text ++ rest =
      '[' :: (blank.text ++ (itemsText true items ++ ']' :: rest)) := by
  simp [text]

/-- An object is written between braces. -/
theorem text_object (blank : Blank) (members : List Script.Member) (rest : List Char) :
    (object blank members).text ++ rest =
      '{' :: (blank.text ++ (membersText true members ++ '}' :: rest)) := by
  simp [text]

/-- An element is written behind a comma, but for the first one. -/
theorem itemsText_cons (first : Bool) (x : Spaced Script) (items : List (Spaced Script))
    (rest : List Char) :
    itemsText first (x :: items) ++ rest = comma first ++ (x.before.text ++
      (x.it.text ++ (x.after.text ++ (itemsText false items ++ rest)))) := by
  obtain ⟨before, it, after⟩ := x
  simp [itemsText, spacedText]

/-- A member is written behind a comma, but for the first one. -/
theorem membersText_cons (first : Bool) (m : Script.Member) (members : List Script.Member)
    (rest : List Char) :
    membersText first (m :: members) ++ rest = comma first ++ (m.1.before.text ++
      '"' :: (m.1.it.flatMap Letter.text ++ '"' :: (m.1.after.text ++ ':' :: (m.2.before.text ++
        (m.2.it.text ++ (m.2.after.text ++ (membersText false members ++ rest))))))) := by
  obtain ⟨name, ⟨before, it, after⟩⟩ := m
  simp [membersText, memberText, spacedText, quotedLetters]

/-- Each element takes up a character at least. -/
theorem length_le_itemsText (first : Bool) (items : List (Spaced Script)) :
    items.length ≤ (itemsText first items).length := by
  induction items generalizing first with
  | nil => simp
  | cons x items ih =>
    -- The text of an element has an opening character, which pays for it.
    obtain ⟨text, htext⟩ := x.it.text_eq_opening
    have hitems := ih false
    have hcons := congrArg List.length (itemsText_cons first x items [])
    rw [htext] at hcons
    simp only [List.length_append, List.length_cons, List.length_nil] at hcons ⊢
    omega

/-- So does each member. -/
theorem length_le_membersText (first : Bool) (members : List Script.Member) :
    members.length ≤ (membersText first members).length := by
  induction members generalizing first with
  | nil => simp
  | cons m members ih =>
    -- The quotes around a name pay for the member.
    have hmembers := ih false
    have hcons := congrArg List.length (membersText_cons first m members [])
    simp only [List.length_append, List.length_cons, List.length_nil] at hcons ⊢
    omega

end Script

open Script (itemsText membersText)

/-- What follows a part of a list or an object ends a number. -/
theorem closes_itemsText (items : List (Spaced Script)) (rest : List Char) :
    Closes (itemsText false items ++ ']' :: rest) := by
  cases items with
  | nil => exact closes_cons (by decide) _
  | cons x items =>
    rw [Script.itemsText_cons]
    exact closes_cons (by decide) _

/-- A number ends before what follows in an object. -/
theorem closes_membersText (members : List Script.Member) (rest : List Char) :
    Closes (membersText false members ++ '}' :: rest) := by
  cases members with
  | nil => exact closes_cons (by decide) _
  | cons m members =>
    rw [Script.membersText_cons]
    exact closes_cons (by decide) _

/-- An element is seen behind the comma and the white space. -/
theorem hasElement_text (first : Bool) (hgap : Gap gap) {before : List Char} (hbefore : Gap before)
    (script : Script) (rest : List Char) :
    hasElement first (gap ++ (comma first ++ (before ++ (script.text ++ rest)))) =
      .ok (true, script.text ++ rest) := by
  obtain ⟨text, htext⟩ := script.text_eq_opening
  rw [htext]
  cases first with
  | true =>
    have hopens := script.opensValue_opening
    have hfirst := hasElement_first (gap_append hgap hbefore) hopens (text ++ rest)
    rw [List.append_assoc] at hfirst
    exact hfirst
  | false =>
    refine (next?_bind_gap hgap _ _).trans ?_
    exact hasElement_next hbefore script.opensValue_opening (text ++ rest)

/-- The elements of a list are read one by one, with fuel for each and for the end. -/
theorem elements_items {item : Reader α} {items : List (Spaced Script)}
    (hitems : ∀ x ∈ items, Gives item x.it (outcome item x.it)) (first : Bool) (hgap : Gap gap)
    (rest : List Char) {fuel : Nat} (hfuel : items.length < fuel) :
    (elements item fuel first (gap ++ (itemsText first items ++ ']' :: rest))).toOption =
      (items.mapM fun x => outcome item x.it).map (·, ']' :: rest) := by
  obtain ⟨fuel, rfl⟩ := Nat.exists_eq_add_one_of_ne_zero (Nat.ne_zero_of_lt hfuel)
  -- The white space behind an element becomes that before the comma of the next one.
  induction items generalizing first gap fuel with
  | nil => exact congrArg Except.toOption (elements_end fuel first hgap rest)
  | cons x items ih =>
    obtain ⟨fuel, rfl⟩ := Nat.exists_eq_add_one_of_ne_zero (n := fuel) (by simp at hfuel; omega)
    have hx := (hitems x List.mem_cons_self).bare
      (closes_gap x.after.isGap (closes_itemsText items rest))
    have hrest := ih (fun y hy => hitems y (List.mem_cons_of_mem _ hy)) false x.after.isGap fuel
      (by simp at hfuel; omega)
    unfold elements
    rw [Script.itemsText_cons, bind_ok _ (hasElement_text first hgap x.before.isGap x.it _)]
    simp only [↓reduceIte]
    -- The element is read first, and without it nothing is read of the others.
    rw [bind_toOption _ hx, List.mapM_cons]
    cases outcome item x.it with
    | none => rfl
    | some a =>
      rw [Option.bind_some]
      refine (bind_toOption _ hrest).trans ?_
      cases items.mapM fun x => outcome item x.it <;> rfl

/-- A list is made of its elements. -/
theorem listFrom_items {item : Reader α} {items : List (Spaced Script)}
    (hitems : ∀ x ∈ items, Gives item x.it (outcome item x.it)) (first : Bool) (hgap : Gap gap)
    (rest : List Char) :
    (listFrom first item (gap ++ (itemsText first items ++ ']' :: rest))).toOption =
      (items.mapM fun x => outcome item x.it).map (·, rest) := by
  -- Every element takes up some of the text, so its length is fuel enough.
  have hfuel : items.length < (gap ++ (itemsText first items ++ ']' :: rest)).length + 1 := by
    have hlength := Script.length_le_itemsText first items
    simp only [List.length_append, List.length_cons]
    omega
  unfold listFrom
  rw [bind_ok _ (get_ok _), bind_toOption _ (elements_items hitems first hgap rest hfuel)]
  cases items.mapM fun x => outcome item x.it with
  | none => rfl
  | some read =>
    rw [Option.bind_some, bind_ok _ (closeList_end rest)]
    rfl

/-- A list does not end where an element follows. -/
theorem closeList_text_ne_ok (first : Bool) (hgap : Gap gap) (x : Spaced Script)
    (items : List (Spaced Script)) (rest after : List Char) :
    closeList (gap ++ (itemsText first (x :: items) ++ rest)) ≠ .ok ((), after) := by
  -- What is seen instead of the bracket is the element itself, or the comma before it.
  have hseen : ∃ c text, c ≠ some ']' ∧
      next? (gap ++ (itemsText first (x :: items) ++ rest)) = .ok (c, text) := by
    rw [Script.itemsText_cons]
    cases first with
    | true =>
      have hnext := x.it.next?_text (gap_append hgap x.before.isGap)
        (x.after.text ++ (itemsText false items ++ rest))
      have hne := ne_of_opensValue x.it.opensValue_opening
      rw [List.append_assoc] at hnext
      exact ⟨_, _, fun h => hne (Option.some.inj h), hnext⟩
    | false => exact ⟨some ',', _, by decide, next?_gap hgap (by decide) _⟩
  obtain ⟨c, text, hc, hnext⟩ := hseen
  unfold closeList
  rw [bind_ok _ hnext]
  split
  -- Neither the end of the text nor any other character closes the list.
  · exact endedIn_ne_ok _
  · exact absurd rfl hc
  · refine bind_ne_ok fun _ _ => bind_ne_ok fun _ _ => ?_
    split <;> exact breached_ne_ok _
  · exact breached_ne_ok _

variable {σ : Type}

/-- What a member makes of the state so far: its name is read, and then its value. -/
def putMember (put : σ → String → Script → Option σ) (s : σ) (m : Script.Member) : Option σ :=
  (Script.Member.name? m).bind fun name => put s name m.2.it

/-- Whether a reader of members makes of a value what `put` says, from the colon on. -/
def StepGives (step : σ → String → Reader σ) (put : σ → String → Script → Option σ)
    (script : Script) : Prop :=
  ∀ s name gap before rest, Gap gap → Gap before → Closes rest →
    (step s name (gap ++ ':' :: (before ++ (script.text ++ rest)))).toOption =
      (put s name script).map (·, rest)

/-- The name of a member is seen behind the comma and the white space. -/
theorem hasMember_text (first : Bool) (hgap : Gap gap) {before : List Char} (hbefore : Gap before)
    (rest : List Char) :
    hasMember first (gap ++ (comma first ++ (before ++ '"' :: rest))) = .ok (true, rest) := by
  cases first with
  | true =>
    have hfirst := hasMember_first (gap_append hgap hbefore) rest
    rw [List.append_assoc] at hfirst
    exact hfirst
  | false =>
    refine (next?_bind_gap hgap _ _).trans ?_
    exact hasMember_next hbefore rest

/-- The colon is seen behind the white space. -/
theorem colon_gap (hgap : Gap gap) (rest : List Char) :
    colon (gap ++ ':' :: rest) = .ok ((), rest) :=
  (next?_bind_gap hgap _ _).trans (colon_cons rest)

/-- The members of an object are read one by one, with fuel for each and for the end. -/
theorem members_members {step : σ → String → Reader σ} {put : σ → String → Script → Option σ}
    {list : List Script.Member} (hstep : ∀ m ∈ list, StepGives step put m.2.it) (first : Bool)
    (hgap : Gap gap) (s : σ) (rest : List Char) {fuel : Nat} (hfuel : list.length < fuel) :
    (members step fuel first s (gap ++ (membersText first list ++ '}' :: rest))).toOption =
      (list.foldlM (putMember put) s).map (·, rest) := by
  obtain ⟨fuel, rfl⟩ := Nat.exists_eq_add_one_of_ne_zero (Nat.ne_zero_of_lt hfuel)
  -- Over the members, with the state that those before them left, and with the fuel that is left.
  induction list generalizing first gap s fuel with
  | nil => exact congrArg Except.toOption (members_end fuel first s hgap rest)
  | cons m list ih =>
    obtain ⟨fuel, rfl⟩ := Nat.exists_eq_add_one_of_ne_zero (n := fuel) (by simp at hfuel; omega)
    have hrest := fun next => ih (fun m hm => hstep m (List.mem_cons_of_mem _ hm)) false
      m.2.after.isGap next fuel (by simp at hfuel; omega)
    unfold members
    rw [Script.membersText_cons, bind_ok _ (hasMember_text first hgap m.1.before.isGap _)]
    simp only [↓reduceIte]
    rw [bind_toOption _ (string_letters m.1.it _), List.foldlM_cons]
    -- A member whose name has no meaning stops the reader, as does one that is refused.
    have hput : putMember put s m =
        (Letter.name? m.1.it).bind fun name => put s name m.2.it := rfl
    rw [hput]
    cases Letter.name? m.1.it with
    | none => rfl
    | some name =>
      rw [Option.bind_some, Option.bind_some]
      have hm := hstep m List.mem_cons_self s name _ _ _ m.1.after.isGap m.2.before.isGap
        (closes_gap m.2.after.isGap (closes_membersText list rest))
      refine (bind_toOption _ hm).trans ?_
      cases put s name m.2.it with
      | none => rfl
      | some next =>
        rw [Option.bind_some]
        exact hrest next

/-- An object is made of its members, one after the other. -/
theorem objectFrom_members {step : σ → String → Reader σ} {put : σ → String → Script → Option σ}
    {list : List Script.Member} (hstep : ∀ m ∈ list, StepGives step put m.2.it) (hgap : Gap gap)
    (s : σ) (rest : List Char) :
    (objectFrom step s (gap ++ (membersText true list ++ '}' :: rest))).toOption =
      (list.foldlM (putMember put) s).map (·, rest) := by
  have hfuel : list.length < (gap ++ (membersText true list ++ '}' :: rest)).length + 1 := by
    have hlength := Script.length_le_membersText true list
    simp only [List.length_append, List.length_cons]
    omega
  unfold objectFrom
  rw [bind_ok _ (get_ok _)]
  exact members_members hstep true hgap s rest hfuel

/-! ## Any values -/

/-- Keeps a member of an object, last one first. -/
def keepMember (depth : Nat) (kept : List (String × Json)) (name : String) (script : Script) :
    Option (List (String × Json)) :=
  (outcome (value depth) script).map fun j => (name, j) :: kept

/-- What is made of the inside of a list or an object, if one more may be open. -/
def inside (depth : Nat) (made : (depth : Nat) → Option α) : Option α :=
  match depth with
  | 0 => none
  | depth + 1 => made depth

/-- What a script is when any value will do, made of what its parts are. -/
def valueParts (depth : Nat) : Script → Option Json
  | .token t => t.value?
  | .list _ items => inside depth fun depth =>
    (items.mapM fun x => outcome (value depth) x.it).map .list
  | .object _ members => inside depth fun depth =>
    (members.foldlM (putMember (keepMember depth)) []).map fun kept => .object kept.reverse

/-- What has no parts is read as its value. -/
private theorem gives_value_token (depth : Nat) (t : Token) :
    Gives (value depth) (.token t) t.value? := by
  intro gap rest hgap hrest
  cases t with
  | null =>
    unfold value
    rw [bind_ok _ (Script.next?_text _ hgap rest)]
    exact congrArg Except.toOption (word_ok 'n' ['u', 'l', 'l'] rest Json.null)
  | bool b =>
    unfold value
    rw [bind_ok _ (Script.next?_text _ hgap rest)]
    cases b with
    | true => exact congrArg Except.toOption (word_ok 't' ['r', 'u', 'e'] rest (Json.bool true))
    | false =>
      exact congrArg Except.toOption (word_ok 'f' ['a', 'l', 's', 'e'] rest (Json.bool false))
  | number n =>
    -- A number is told by its first character, a digit or a sign.
    have hread := NumberText.number_spelled n.wellFormed n.isMark hrest
    obtain ⟨c, text, htext, hc⟩ := n.parts.spelled_head n.wellFormed n.mark
    have hscript : (Script.token (.number n)).text = c :: text := htext
    rw [htext] at hread
    rw [hscript, List.cons_append, Form.value_number depth hgap hc]
    exact map_toOption _ hread
  | string letters =>
    unfold value
    rw [bind_ok _ (Script.next?_text _ hgap rest), Script.text_string]
    refine (toOption_bind_ok _ (advance_cons _ _)).trans ?_
    exact map_toOption _ (string_letters letters rest)

/-- A member is kept once its value is read. -/
theorem stepGives_keepMember {depth : Nat} {script : Script} {result : Option Json}
    (h : Gives (value depth) script result) :
    StepGives (fun (read : List (String × Json)) name => do
      colon
      let v ← value depth
      return (name, v) :: read) (keepMember depth) script := by
  intro kept name gap before rest hgap hbefore hrest
  refine (toOption_bind_ok _ (colon_gap hgap _)).trans ?_
  refine (bind_toOption _ (h.outcome before rest hbefore hrest)).trans ?_
  unfold keepMember
  cases outcome (value depth) script <;> rfl

/-- Every script is read as the value that its parts make, if they make one. -/
theorem gives_valueParts (depth : Nat) (script : Script) :
    Gives (value depth) script (valueParts depth script) := by
  induction script using Script.induction generalizing depth with
  | token t => exact gives_value_token depth t
  | list blank items ih =>
    intro gap rest hgap hrest
    unfold value
    rw [bind_ok _ (Script.next?_text _ hgap rest)]
    -- At the deepest level nothing with parts is read.
    cases depth with
    | zero => rfl
    | succ depth =>
      -- Inside, values may stand less deep by one.
      have hitems := listFrom_items (fun x hx => (ih x hx depth).outcome) true blank.isGap rest
      rw [Script.text_list]
      refine (toOption_bind_ok _ (advance_cons _ _)).trans ?_
      exact map_toOption _ hitems
  | object blank members ih =>
    intro gap rest hgap hrest
    unfold value
    rw [bind_ok _ (Script.next?_text _ hgap rest)]
    cases depth with
    | zero => rfl
    | succ depth =>
      rw [Script.text_object]
      refine (toOption_bind_ok _ (advance_cons _ _)).trans ?_
      refine (bind_toOption _ (objectFrom_members (fun m hm => stepGives_keepMember (ih m hm depth))
        blank.isGap [] rest)).trans ?_
      show _ = ((members.foldlM (putMember (keepMember depth)) []).map fun kept =>
        Json.object kept.reverse).map (·, rest)
      cases members.foldlM (putMember (keepMember depth)) [] <;> rfl

end Gamebook.Json
