import Gamebook.Proofs.Json.ScriptReading

/-!
# Forms on scripts

What a form makes of a script is the same wherever the script stands. It is worked out here for the
basic forms, for lists and for names.

## Key results

- `Form.take`: what a form makes of a script
- `Form.Settled`: whether that is the same wherever the script stands
- `gives_textOf`, `gives_bool`, `gives_whole`, `gives_optional`: what the basic forms make of it
- `gives_map`, `gives_check`: what forms make of it that are built on other forms
- `gives_list`: a list is made of its elements
- `gives_choice`: a name, or an object with one member that stands for it
-/

namespace Gamebook

open Json (Reader Gap Closes Gives outcome Script Spaced Letter Token)
open Json.Script (itemsText membersText)
open Reading

namespace Json.Script

/-! ## Tokens -/

/-- The string that a script is. -/
def string? : Script → Option String
  | token (.string letters) => Letter.name? letters
  | _ => none

/-- A script that is a string has no parts. -/
theorem token_of_string? {script : Script} {s : String} (h : script.string? = some s) :
    ∃ t, script = token t := by
  cases script with
  | token t => exact ⟨t, rfl⟩
  | list | object => cases h

/-- The truth value that a script is. -/
def bool? : Script → Option Bool
  | token (.bool b) => some b
  | _ => none

/-- The number that a script is. -/
def number? : Script → Option Number
  | token (.number n) => n.parts.number?
  | _ => none

/-- Whether a script is `null`. -/
def isNull : Script → Bool
  | token .null => true
  | _ => false

/-- No number begins like another value. -/
theorem opening_number_ne (n : Numeral) {c : Char} (hc : ¬ (c = '-' ∨ c.isDigit)) :
    some (token (.number n)).opening ≠ some c :=
  fun h => ne_of_number (opening_number n) hc (Option.some.inj h)

/-- No token begins like a list or an object. -/
theorem opening_token_ne (t : Token) :
    some (token t).opening ≠ some '[' ∧ some (token t).opening ≠ some '{' := by
  cases t with
  | number n => exact ⟨opening_number_ne n (by decide), opening_number_ne n (by decide)⟩
  | bool b => cases b <;> decide
  | null => decide
  | string letters => exact (by decide : some '"' ≠ some '[' ∧ some '"' ≠ some '{')

end Json.Script

namespace Form

variable {α β : Type} {form : Form α} {gap rest : List Char}

/-- What a form makes of a script. -/
def take (form : Form α) (depth : Nat) (script : Script) : Option α :=
  outcome (form.read depth) script

/-- Whether what a form makes of a script is the same wherever the script stands. -/
def Settled (form : Form α) : Prop :=
  ∀ depth script, Gives (form.read depth) script (form.take depth script)

/-- What a form gives is what it makes of the script. -/
theorem take_eq {depth : Nat} {script : Script} {result : Option α}
    (h : Gives (form.read depth) script result) : form.take depth script = result :=
  h.outcome_eq

/-- A form that gives something for every script is settled. -/
theorem settled_of_gives {made : (depth : Nat) → Script → Option α}
    (h : ∀ depth script, Gives (form.read depth) script (made depth script)) : form.Settled :=
  fun depth script => (h depth script).outcome

/-! ## Basic forms -/

/-- A reader that looks at the next character goes on from the first character of a script. -/
theorem read_opening {reader : Reader α} {f : Option Char → Reader α} {script : Script}
    {result : Option α} (hreader : reader = Json.next? >>= f)
    (h : ∀ rest, Closes rest →
      (f (some script.opening) (script.text ++ rest)).toOption = result.map (·, rest)) :
    Gives reader script result := by
  intro gap rest hgap hrest
  rw [hreader, bind_ok _ (script.next?_text hgap rest)]
  exact h rest hrest

/-- A text is taken of a string, and of nothing else. -/
theorem gives_textOf (expected : String) (depth : Nat) (script : Script) :
    Gives ((textOf expected).read depth) script script.string? := by
  refine read_opening rfl fun rest _ => ?_
  cases script with
  | token t =>
    cases t with
    | string letters =>
      rw [Script.text_string]
      refine (toOption_bind_ok _ (Json.advance_cons _ _)).trans ?_
      exact Json.string_letters letters rest
    | number n =>
      -- A number does not begin with a quote.
      have hquote := Script.opening_number_ne n (c := '"') (by decide)
      simp only
      exact toOption_eq_none fun _ => Json.unexpected_ne_ok _
    | bool b => cases b <;> exact toOption_eq_none fun _ => Json.unexpected_ne_ok _
    | null => exact toOption_eq_none fun _ => Json.unexpected_ne_ok _
  | list | object => exact toOption_eq_none fun _ => Json.unexpected_ne_ok _

/-- A truth value is taken of a truth value, and of nothing else. -/
theorem gives_bool (depth : Nat) (script : Script) :
    Gives (bool.read depth) script script.bool? := by
  refine read_opening rfl fun rest _ => ?_
  cases script with
  | token t =>
    cases t with
    | bool b =>
      cases b with
      | true => exact congrArg Except.toOption (Json.word_ok 't' ['r', 'u', 'e'] rest true)
      | false => exact congrArg Except.toOption (Json.word_ok 'f' ['a', 'l', 's', 'e'] rest false)
    | number n =>
      -- A number begins with a digit or a sign, and with neither of the two letters.
      have htrue := Script.opening_number_ne n (c := 't') (by decide)
      have hfalse := Script.opening_number_ne n (c := 'f') (by decide)
      simp only
      exact toOption_eq_none fun _ => Json.unexpected_ne_ok _
    | null | string letters => exact toOption_eq_none fun _ => Json.unexpected_ne_ok _
  | list | object => exact toOption_eq_none fun _ => Json.unexpected_ne_ok _

/-- A number is taken of a number, and of nothing else. -/
theorem gives_readNumber (expected : String) (script : Script) :
    Gives (readNumber expected) script script.number? := by
  refine read_opening rfl fun rest hrest => ?_
  cases script with
  | token t =>
    cases t with
    | number n =>
      simp only [if_pos (Script.opening_number n)]
      exact Json.NumberText.number_spelled n.wellFormed n.isMark hrest
    | bool b => cases b <;> exact toOption_eq_none fun _ => Json.unexpected_ne_ok _
    | null | string letters => exact toOption_eq_none fun _ => Json.unexpected_ne_ok _
  | list | object => exact toOption_eq_none fun _ => Json.unexpected_ne_ok _

/-- A whole number is taken of a number that is whole and in bounds. -/
theorem gives_whole (expected : String) (least greatest : Int) (depth : Nat) (script : Script) :
    Gives ((whole expected least greatest).read depth) script
      (script.number?.bind fun n => (inBounds expected least greatest n).toOption) := by
  intro gap rest hgap hrest
  refine (bind_toOption _ (gives_readNumber expected script gap rest hgap hrest)).trans ?_
  cases script.number? with
  | none => rfl
  | some n => exact toOption_lift _ _

/-- Nothing is taken of the word for nothing. -/
theorem gives_readNull (script : Script) :
    Gives readNull script (if script.isNull then some () else none) := by
  refine read_opening rfl fun rest _ => ?_
  cases script with
  | token t =>
    cases t with
    | null => exact congrArg Except.toOption (Json.word_ok 'n' ['u', 'l', 'l'] rest ())
    | number n =>
      -- A number does not begin with this letter.
      have hnull := Script.opening_number_ne n (c := 'n') (by decide)
      simp only
      exact toOption_eq_none fun _ => Json.unexpected_ne_ok _
    | bool b => cases b <;> exact toOption_eq_none fun _ => Json.unexpected_ne_ok _
    | string letters => exact toOption_eq_none fun _ => Json.unexpected_ne_ok _
  | list | object => exact toOption_eq_none fun _ => Json.unexpected_ne_ok _

/-- An optional value is taken of the word for nothing, or as its form takes it. -/
theorem gives_optional (hform : form.Settled) (depth : Nat) (script : Script) :
    Gives (form.optional.read depth) script
      (if script.isNull then some none else (form.take depth script).map some) := by
  have hread : ∀ rest, Closes rest → ((some <$> form.read depth) (script.text ++ rest)).toOption =
      ((form.take depth script).map some).map (·, rest) := fun rest hrest =>
    map_toOption some ((hform depth script).bare hrest)
  refine read_opening rfl fun rest hrest => ?_
  -- The word for nothing is told by its first character, and all else is left to the form.
  have hread := hread rest hrest
  cases script with
  | token t =>
    cases t with
    | null =>
      exact congrArg Except.toOption (Json.word_ok 'n' ['u', 'l', 'l'] rest (none : Option α))
    | number n =>
      have hnull := Script.opening_number_ne n (c := 'n') (by decide)
      simp only
      exact hread
    | bool b => cases b <;> exact hread
    | string letters => exact hread
  | list | object => exact hread

/-- What is mapped is taken as before and then mapped. -/
theorem gives_map {result : Option α} {depth : Nat} {script : Script}
    (h : Gives (form.read depth) script result) (forth : α → β) (back : β → α) :
    Gives ((form.map forth back).read depth) script (result.map forth) :=
  fun gap rest hgap hrest => map_toOption forth (h gap rest hgap hrest)

/-- What is checked is taken as before and then checked. -/
theorem gives_check {result : Option α} {depth : Nat} {script : Script}
    (h : Gives (form.read depth) script result) (forth : α → Except Json.Problem β) (back : β → α) :
    Gives ((form.check forth back).read depth) script
      (result.bind fun a => (forth a).toOption) := by
  intro gap rest hgap hrest
  refine (bind_toOption _ (h gap rest hgap hrest)).trans ?_
  cases result with
  | none => rfl
  | some a => exact toOption_lift _ _

/-! ## Lists -/

/-- What the form of a list makes of a script. -/
def listParts (form : Form α) (depth : Nat) : Script → Option (List α)
  | .list _ items => Json.inside depth fun depth => items.mapM fun x => form.take depth x.it
  | _ => none

/-- A list is taken of a list, element by element. -/
theorem gives_list (hform : form.Settled) (depth : Nat) (script : Script) :
    Gives (form.list.read depth) script (form.listParts depth script) := by
  have hother : ∀ {script : Script} {rest : List Char},
      ((Json.unexpected "a sequence" : Reader (List α)) (script.text ++ rest)).toOption = none :=
    toOption_eq_none fun _ => Json.unexpected_ne_ok _
  refine read_opening rfl fun rest _ => ?_
  cases script with
  | token t =>
    have hlist := (Script.opening_token_ne t).1
    simp only
    exact hother
  | object => exact hother
  | list blank items =>
    -- Nothing is read inside a list that stands too deep.
    cases depth with
    | zero => rfl
    | succ depth =>
      rw [Script.text_list]
      refine (toOption_bind_ok _ (Json.advance_cons _ _)).trans ?_
      exact Json.listFrom_items (fun x _ => hform depth x.it) true blank.isGap rest

/-! ## Names -/

/-- What the form of a name makes of a script. -/
def choiceParts (cases : List (String × α)) (depth : Nat) : Script → Option α
  | .token t => (Script.token t).string?.bind fun name => (named cases name).toOption
  | .list _ _ => none
  | .object _ [] => none
  | .object _ (m :: members) => Json.inside depth fun _ =>
    (Script.Member.name? m).bind fun name => (named cases name).toOption.bind fun a =>
      if m.2.it.isNull && members.isEmpty then some a else none

/-- The name of the first member of an object is read where a tag is wanted. -/
private theorem readTag_member (hgap : Gap gap) (m : Script.Member) (members : List Script.Member)
    (rest : List Char) :
    (readTag (gap ++ (membersText true (m :: members) ++ rest))).toOption =
      (Script.Member.name? m).map (·, m.1.after.text ++ ':' :: (m.2.before.text ++ (m.2.it.text ++
        (m.2.after.text ++ (membersText false members ++ rest))))) := by
  have hnext := fun text => Json.next?_gap (Json.gap_append hgap m.1.before.isGap) (c := '"')
    (by decide) text
  simp only [List.append_assoc] at hnext
  rw [Script.membersText_cons]
  refine (toOption_bind_ok _ (hnext _)).trans ?_
  refine (toOption_bind_ok _ (Json.advance_cons _ _)).trans ?_
  exact Json.string_letters m.1.it _

/-- Behind the name of the first member `null` is read, and then the end of the object. -/
private theorem readUnit_member (a : α) (m : Script.Member) (members : List Script.Member)
    (rest : List Char) :
    ((do
      Json.colon
      readNull
      match (← Json.next?) with
      | none => Json.endedIn .object
      | some '}' =>
        Json.advance
        return a
      | some _ => Json.breached .valueExpected : Reader α)
        (m.1.after.text ++ ':' :: (m.2.before.text ++ (m.2.it.text ++
          (m.2.after.text ++ (membersText false members ++ '}' :: rest)))))).toOption =
      (if m.2.it.isNull && members.isEmpty then some a else none).map (·, rest) := by
  have hnull := gives_readNull m.2.it m.2.before.text _ m.2.before.isGap
    (Json.closes_gap m.2.after.isGap (Json.closes_membersText members rest))
  refine (toOption_bind_ok _ (Json.colon_gap m.1.after.isGap _)).trans ?_
  refine (bind_toOption _ hnull).trans ?_
  -- The value must be null, and then the object must end.
  cases m.2.it.isNull with
  | false => rfl
  | true =>
    rw [if_pos rfl, Option.bind_some]
    refine (congrArg Except.toOption (Json.next?_bind_gap m.2.after.isGap _ _)).trans ?_
    cases members with
    | nil => exact toOption_bind_ok _ (Json.next?_cons (by decide) _)
    | cons k members =>
      rw [Script.membersText_cons]
      exact toOption_bind_ok _ (Json.next?_cons (by decide) _)

/-- A choice is taken of a name, or of an object that has the name alone. -/
theorem gives_choice (cases : List (String × α)) (nameOf : α → String) (depth : Nat)
    (script : Script) :
    Gives ((choice cases nameOf).read depth) script (choiceParts cases depth script) := by
  have hother : ∀ {text : List Char},
      ((Json.breached .valueExpected : Reader α) text).toOption = none :=
    toOption_eq_none fun _ => Json.breached_ne_ok _
  refine read_opening rfl fun rest _ => ?_
  cases script with
  | token t =>
    cases t with
    | string letters =>
      rw [Script.text_string]
      refine (toOption_bind_ok _ (Json.advance_cons _ _)).trans ?_
      refine (bind_toOption _ (Json.string_letters letters rest)).trans ?_
      show _ = ((Letter.name? letters).bind fun name => (named cases name).toOption).map (·, rest)
      cases Letter.name? letters with
      | none => rfl
      | some name => exact toOption_lift _ _
    -- A number begins with neither a quote nor a brace.
    | number n =>
      have hc := Script.opening_number n
      have hstring : (Script.token (.number n)).opening ≠ '"' := Json.ne_of_number hc (by decide)
      have hobject : (Script.token (.number n)).opening ≠ '{' := Json.ne_of_number hc (by decide)
      simp only
      exact hother
    | bool b => cases b <;> exact hother
    | null => exact hother
  | list blank items => exact hother
  | object blank members =>
    cases depth with
    | zero => cases members <;> rfl
    | succ depth =>
      rw [Script.text_object]
      refine (toOption_bind_ok _ (Json.advance_cons _ _)).trans ?_
      cases members with
      | nil =>
        refine toOption_eq_none fun read h => ?_
        obtain ⟨_, _, htag, -⟩ := of_bind_ok h
        have hnext := Json.next?_gap blank.isGap (by decide : Json.isSpace '}' = false) rest
        exact Json.unexpected_ne_ok _ ((bind_ok _ hnext).symm.trans htag)
      | cons m members =>
        refine (bind_toOption _ (readTag_member blank.isGap m members _)).trans ?_
        -- Its name must be known and its value `null`, and no other member may follow.
        show _ = ((Script.Member.name? m).bind fun name => (named cases name).toOption.bind fun a =>
          if m.2.it.isNull && members.isEmpty then some a else none).map (·, rest)
        cases Script.Member.name? m with
        | none => rfl
        | some name =>
          rw [Option.bind_some, Option.bind_some]
          refine (bind_toOption _ (toOption_lift (named cases name) _)).trans ?_
          cases (named cases name).toOption with
          | none => rfl
          | some a =>
            rw [Option.bind_some, Option.bind_some]
            exact readUnit_member a m members rest

end Form

end Gamebook
