import Gamebook.Proofs.Json.ReadBack

/-!
# JSON as it is written

A JSON value can be written in many ways: with white space between its parts, and with different
spellings of one string or one number. A `Script` is a value together with the way it is written, so
that whatever is JSON text is the text of a script. It need not have a meaning: the halves of a
surrogate pair can be spelled apart, and a number can be too large.

## Key results

- `Letter`, `Numeral`, `Token`, `Script`: the parts of a text, and `Script.text`, the text itself
- `Letter.name?`: the string that letters spell, if they spell one
- `Script.induction`: what holds of tokens, and of lists and objects if it holds of their parts,
  holds of all scripts
- `Script.opensValue_opening`: the first character of a script tells that a value follows
-/

namespace Gamebook.Json

/-! ## Tokens -/

/-- White space between the parts of a text. -/
structure Blank where
  text : List Char
  isGap : Gap text

/-- No white space. -/
def Blank.none : Blank := ⟨[], gap_nil⟩

/-- A character of a string as it is spelled, or half of one. -/
inductive Letter where
  /-- A character that stands for itself. -/
  | plain (c : Char) (h : c ≠ '"' ∧ c ≠ '\\' ∧ 0x20 ≤ c.toNat)
  /-- A backslash, and a letter that stands for a character. -/
  | escape (c e : Char) (h : escapeLetter c = some e)
  /-- A word of UTF-16, as four hexadecimal digits. -/
  | word (a b c d : Char) (n : Nat) (h : hexWord a b c d = some n)

namespace Letter

/-- A letter as it stands in a string. -/
def text : Letter → List Char
  | plain c _ => [c]
  | escape c _ _ => ['\\', c]
  | word a b c d _ _ => ['\\', 'u', a, b, c, d]

/-- The characters that letters spell, if every half of a pair stands before or behind its other
half. -/
def chars? : List Letter → Option (List Char)
  | [] => some []
  | plain c _ :: rest => (chars? rest).map (c :: ·)
  | escape _ e _ :: rest => (chars? rest).map (e :: ·)
  | word _ _ _ _ n _ :: rest =>
    if isTrailing n then none
    else if isLeading n then
      match rest with
      | word _ _ _ _ m _ :: rest =>
        if isTrailing m then (chars? rest).map (pairChar n m :: ·) else none
      | _ => none
    else (chars? rest).map (Char.ofNat n :: ·)

/-- The string that letters spell. -/
def name? (letters : List Letter) : Option String := (chars? letters).map String.ofList

end Letter

/-- Letters between quotes. -/
def quotedLetters (letters : List Letter) : List Char :=
  '"' :: (letters.flatMap Letter.text ++ ['"'])

/-- A number as it is spelled. -/
structure Numeral where
  parts : NumberText
  wellFormed : parts.WellFormed
  /-- The letter of the exponent and its sign. -/
  mark : List Char
  isMark : parts.Marked mark

/-- A number as it stands in a text. -/
def Numeral.text (n : Numeral) : List Char := n.parts.spelled n.mark

/-- A value that has no parts. -/
inductive Token where
  | null
  | bool (b : Bool)
  | number (n : Numeral)
  | string (letters : List Letter)

namespace Token

/-- A token as it stands in a text. -/
def text : Token → List Char
  | null => ['n', 'u', 'l', 'l']
  | bool true => ['t', 'r', 'u', 'e']
  | bool false => ['f', 'a', 'l', 's', 'e']
  | number n => n.text
  | string letters => quotedLetters letters

/-- The value that a token stands for. A string with half a pair and a number that is too large
stand for none. -/
def value? : Token → Option Json
  | null => some .null
  | bool b => some (.bool b)
  | number n => n.parts.number?.map Number.toJson
  | string letters => (Letter.name? letters).map .text

end Token

/-! ## Scripts -/

/-- Something with white space around it. -/
structure Spaced (α : Type) where
  before : Blank
  it : α
  after : Blank

/-- A JSON value as it is written. -/
inductive Script where
  | token (t : Token)
  /-- The white space behind the bracket, and the elements. -/
  | list (blank : Blank) (items : List (Spaced Script))
  /-- The white space behind the brace, and the members, each with its name. -/
  | object (blank : Blank) (members : List (Spaced (List Letter) × Spaced Script))

/-- A member of an object as it is written. -/
abbrev Script.Member : Type := Spaced (List Letter) × Spaced Script

/-- The name of a member, if its letters spell one. -/
def Script.Member.name? (m : Script.Member) : Option String := Letter.name? m.1.it

/-- The comma before an element or a member that is not the first. -/
def comma (first : Bool) : List Char := if first then [] else [',']

namespace Script

mutual

/-- The text of a script. -/
def text : Script → List Char
  | token t => t.text
  | list blank items => '[' :: (blank.text ++ (itemsText true items ++ [']']))
  | object blank members => '{' :: (blank.text ++ (membersText true members ++ ['}']))

/-- The text of an element or a value, with its white space. -/
def spacedText : Spaced Script → List Char
  | ⟨before, it, after⟩ => before.text ++ (text it ++ after.text)

/-- The elements of a list, with commas between them. -/
def itemsText (first : Bool) : List (Spaced Script) → List Char
  | [] => []
  | item :: items => comma first ++ (spacedText item ++ itemsText false items)

/-- The text of a member: its name, a colon and its value. -/
def memberText : Spaced (List Letter) × Spaced Script → List Char
  | (name, value) =>
    name.before.text ++ (quotedLetters name.it ++ (name.after.text ++ ':' :: spacedText value))

/-- The members of an object, with commas between them. -/
def membersText (first : Bool) : List (Spaced (List Letter) × Spaced Script) → List Char
  | [] => []
  | m :: members => comma first ++ (memberText m ++ membersText false members)

end

/-- What holds of tokens, and of lists and objects if it holds of their elements and values, holds
of all scripts. -/
theorem induction {P : Script → Prop} (token : ∀ t, P (.token t))
    (list : ∀ blank items, (∀ x ∈ items, P x.it) → P (.list blank items))
    (object : ∀ blank members, (∀ m ∈ members, P m.2.it) → P (.object blank members))
    (script : Script) : P script :=
  @Script.rec P (fun items => ∀ x ∈ items, P x.it) (fun members => ∀ m ∈ members, P m.2.it)
    (fun x => P x.it) (fun m => P m.2.it) token list object
    (fun _ h => absurd h List.not_mem_nil)
    (fun _ _ hfirst hrest => List.forall_mem_cons.2 ⟨hfirst, hrest⟩)
    (fun _ h => absurd h List.not_mem_nil)
    (fun _ _ hfirst hrest => List.forall_mem_cons.2 ⟨hfirst, hrest⟩)
    (fun _ _ _ h => h) (fun _ _ h => h) script

end Script

/-! ## How texts begin -/

namespace Script

/-- The character that the text of a script begins with. -/
def opening (script : Script) : Char := script.text.headD ' '

/-- The text of a number begins with a minus sign or a digit. -/
theorem opening_number (n : Numeral) :
    (token (.number n)).opening = '-' ∨ (token (.number n)).opening.isDigit := by
  obtain ⟨c, text, htext, hc⟩ := n.parts.spelled_head n.wellFormed n.mark
  have hopening : (token (.number n)).opening = c := congrArg (List.headD · ' ') htext
  rwa [hopening]

/-- The first character of a script tells that a value follows. -/
theorem opensValue_opening (script : Script) : opensValue script.opening = true := by
  cases script with
  | token t =>
    cases t with
    | number n => exact opensValue_of_number (opening_number n)
    | bool b => cases b <;> decide
    | null => decide
    | string letters => exact (by decide : opensValue '"' = true)
  | list blank items => exact (by decide : opensValue '[' = true)
  | object blank members => exact (by decide : opensValue '{' = true)

/-- A script begins with its opening. -/
theorem text_eq_opening (script : Script) : ∃ text, script.text = script.opening :: text := by
  unfold opening
  cases htext : script.text with
  | cons c text => exact ⟨text, rfl⟩
  | nil =>
    -- No value begins with a blank.
    have hopens := script.opensValue_opening
    unfold opening at hopens
    rw [htext] at hopens
    exact absurd hopens (by decide)

/-- The reader sees the first character of a script behind the white space. -/
theorem next?_text (script : Script) {gap : List Char} (hgap : Gap gap) (rest : List Char) :
    next? (gap ++ (script.text ++ rest)) = .ok (some script.opening, script.text ++ rest) := by
  obtain ⟨text, htext⟩ := script.text_eq_opening
  have hspace := isSpace_of_opensValue script.opensValue_opening
  rw [htext, List.cons_append]
  exact next?_gap hgap hspace _

end Script

end Gamebook.Json
