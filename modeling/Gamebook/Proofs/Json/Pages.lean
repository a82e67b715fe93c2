import Gamebook.Proofs.Json.Tolerance

/-!
# Whole texts

A page is a script with white space around it. Every text that can be read is the text of a page,
and what is read of it is what the form makes of the script. So a tolerant form reads the same of a
page that is rearranged.

## Key results

- `Page.text`: the text of a page
- `Tolerates.page_of_parse`: a text that can be read is the text of a page
- `Tolerates.toOption_parse`: what is read of a page
- `Tolerates.parse_of_rearranged`: rearranged pages are read in the same way
- `Script.ofString`, `Script.ofInt`, `Script.ofItems`, `Script.ofMembers`: scripts that are put
  together without white space
-/

namespace Gamebook

open Json (Script Spaced Gap Shape Rearranged)
open Reading

/-- A script with white space around it. -/
abbrev Json.Page : Type := Spaced Script

/-- The text of a page. -/
def Json.Page.text (page : Json.Page) : String := String.ofList (Script.spacedText page)

namespace Form

open Json (Page)

variable {α : Type} {form : Form α} {shape : Shape}

/-- A text that can be read is the text of a page. -/
theorem Tolerates.page_of_parse (h : form.Tolerates shape) {text : String} {a : α}
    (hparse : form.parse text = .ok a) : ∃ page : Page, text = page.text := by
  unfold parse Json.readAll at hparse
  cases hread : form.read Json.maxDepth text.toList with
  | error e =>
    rw [hread] at hparse
    cases hparse
  | ok read =>
    obtain ⟨b, rest⟩ := read
    rw [hread] at hparse
    simp only at hparse
    split at hparse
    next hrest =>
      -- Only white space is left.
      have hgap : Gap rest := List.dropWhile_eq_nil_iff.1 (List.isEmpty_iff.1 hrest)
      obtain ⟨gap, _, hbefore, ⟨script, rfl⟩, htext⟩ := h.covered _ hread
      refine ⟨⟨⟨gap, hbefore⟩, script, ⟨rest, hgap⟩⟩, ?_⟩
      rw [← String.ofList_toList (s := text), htext]
      rfl
    next => cases hparse

/-- What is read of a page is what the form makes of the script. -/
theorem Tolerates.toOption_parse (h : form.Tolerates shape) (page : Page) :
    (form.parse page.text).toOption = form.take Json.maxDepth page.it := by
  obtain ⟨before, script, after⟩ := page
  have hread := h.settled Json.maxDepth script before.text after.text before.isGap
    (List.append_nil after.text ▸ Json.closes_gap after.isGap Json.closes_nil)
  have htext : (Page.text ⟨before, script, after⟩).toList =
      before.text ++ (script.text ++ after.text) := String.toList_ofList
  unfold parse Json.readAll
  rw [htext]
  -- The script ends before the white space behind it, which is all that is left.
  cases htake : form.take Json.maxDepth script with
  | none =>
    rw [htake] at hread
    cases hresult : form.read Json.maxDepth (before.text ++ (script.text ++ after.text)) with
    | error e => rfl
    | ok read =>
      rw [hresult] at hread
      cases hread
  | some a =>
    rw [htake] at hread
    rw [toOption_eq_some.1 hread]
    have hend : after.text.dropWhile Json.isSpace = [] :=
      List.dropWhile_eq_nil_iff.2 after.isGap
    simp [hend, Except.toOption]

/-- A tolerant form makes the same of a script that is rearranged. -/
theorem Tolerates.take_of_rearranged (h : form.Tolerates shape) {depth : Nat}
    {script script' : Script} (hscript : Rearranged shape script script') {a : α}
    (htake : form.take depth script = some a) : form.take depth script' = some a := by
  -- One change after the other, each of which the form takes no notice of.
  induction hscript with
  | refl => exact htake
  | tail _ hchange ih => exact h.keeps hchange ih

/-- So it reads the same of a page that is rearranged. -/
theorem Tolerates.parse_of_rearranged (h : form.Tolerates shape) {page page' : Page}
    (hpage : Rearranged shape page.it page'.it) {a : α} (hparse : form.parse page.text = .ok a) :
    form.parse page'.text = .ok a := by
  rw [← toOption_eq_some, h.toOption_parse] at hparse ⊢
  exact h.take_of_rearranged hpage hparse

end Form

/-! ## Scripts without white space -/

namespace Json

/-- A thing without white space around it. -/
def Spaced.tight {α : Type} (a : α) : Spaced α := ⟨.none, a, .none⟩

/-- Letters that stand for themselves. -/
def plainLetters (s : String) : List Letter :=
  s.toList.filterMap fun c =>
    if h : c ≠ '"' ∧ c ≠ '\\' ∧ 0x20 ≤ c.toNat then some (.plain c h) else none

namespace Script

/-- A string without escapes. -/
def ofString (s : String) : Script := .token (.string (plainLetters s))

/-- A whole number. -/
def ofInt (n : Int) : Script :=
  .token (.number ⟨.ofInt n, NumberText.wellFormed_ofInt n, [], fun _ h => by cases h⟩)

def ofItems (items : List Script) : Script := .list .none (items.map .tight)

def ofMembers (members : List Script.Member) : Script := .object .none members

/-- A member with a name and a value. -/
def memberOf (name : String) (value : Script) : Script.Member :=
  (.tight (plainLetters name), .tight value)

end Script

namespace Change

variable {shape : Shape} {script script' : Script}

/-- The only element of a list is written differently. -/
theorem of_only (h : Change (shape.item 0) script script') :
    Change shape (.ofItems [script]) (.ofItems [script']) :=
  @item shape .none .none [] [] (.tight script) (.tight script') h

/-- The value of a member is written differently. -/
theorem of_value (before after : List Script.Member) {name : String}
    (h : Change (shape.member (Letter.name? (plainLetters name))) script script') :
    Change shape (.ofMembers (before ++ Script.memberOf name script :: after))
      (.ofMembers (before ++ Script.memberOf name script' :: after)) :=
  .member rfl h

end Change

end Json

end Gamebook
