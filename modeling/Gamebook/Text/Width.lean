import Gamebook.Text.CharWidth
import Gamebook.Text.Join

/-!
# The width of text in columns

How many columns of a terminal a text takes. Each character takes its own width, unless it shares
columns with what follows it: by a selector, or by a `Join`.
-/

namespace Gamebook.Text

/-- The selector that makes the quotation mark before it wide. -/
def quoteSelector : Char := '\uFE01'

/-- Whether the quote selector changes a character. -/
def takesQuoteSelector (c : Char) : Bool :=
  c = '\u2018' || c = '\u2019' || c = '\u201C' || c = '\u201D'

/-- What the beginning of a text means for the character before it: what it offers to join with, and
the selectors that stand before that. -/
structure Lead where
  join : Join := .nothing
  emoji : Bool := false
  text : Bool := false
  quote : Bool := false
  deriving DecidableEq, Repr

namespace Lead

/-- Puts the emoji selector before a text. It hides what it stands before, unless that is a letter
or an emoji to be joined. -/
def withEmoji (lead : Lead) : Lead :=
  if lead.join.isLetter || lead.join.isJoined then { lead with emoji := true }
  else { emoji := true }

/-- Puts the text selector before a text. It hides what it stands before, unless that is a
letter. -/
def withText (lead : Lead) : Lead :=
  if lead.join.isLetter then { lead with text := true } else { text := true }

/-- Puts the quote selector before a text. It hides what it stands before, unless that is a
letter. -/
def withQuote (lead : Lead) : Lead :=
  if lead.join.isLetter then { lead with quote := true } else { quote := true }

/-- Passes by an emoji selector that the character before it does not take. -/
def withoutEmoji (lead : Lead) : Lead :=
  if !lead.emoji then lead
  else if lead.join.isLetter then { lead with emoji := false }
  else {}

/-- Puts a character before a text: the columns that it adds, and what it means in turn. -/
def add (c : Char) (lead : Lead) : Int × Lead :=
  if lead.emoji && takesEmojiSelector c then
    (if lead.join.isJoined then 0 else 2, { join := .emoji })
  else
    let lead := lead.withoutEmoji
    if c = emojiSelector then (0, lead.withEmoji)
    else if c = textSelector then (0, lead.withText)
    else if c = quoteSelector then (0, lead.withQuote)
    else if lead.text && takesTextSelector c then (1, {})
    else if lead.quote && takesQuoteSelector c then (2, {})
    else match lead.join.meet? c with
      | some (columns, join) => (columns, { join })
      | none => (charWidth c, { join := Join.ofChar c })

end Lead

/-- Measures a text from its end: the columns that it takes, and what it means for a character
before it. -/
def measureText (text : List Char) : Int × Lead :=
  text.foldr (fun c (columns, lead) =>
    let (added, lead) := lead.add c
    (columns + added, lead)) (0, {})

/-- The columns that a text takes. -/
def width (text : List Char) : Nat := (measureText text).1.toNat

end Gamebook.Text
