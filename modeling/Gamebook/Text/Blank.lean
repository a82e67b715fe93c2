import Gamebook.Text.CharSet

/-!
# Blank characters and trimming

The characters with the Unicode property White_Space, and the texts without such characters at
their ends.
-/

namespace Gamebook.Text

/-- The characters with the Unicode property White_Space. -/
def blanks : CharSet := ⟨
  [0x9, 0xE, 0x20, 0x21, 0x85, 0x86, 0xA0, 0xA1, 0x1680, 0x1681,
   0x2000, 0x200B, 0x2028, 0x202A, 0x202F, 0x2030, 0x205F, 0x2060, 0x3000, 0x3001]⟩

/-- Whether a character is white space. -/
def isBlank (c : Char) : Bool := blanks.contains c

/-- What is left of a text from its first character on that is not blank. -/
def trimStart (text : List Char) : List Char := text.dropWhile isBlank

/-- A text without the blanks at its ends. -/
def trim (text : String) : String :=
  String.ofList (trimStart (trimStart text.toList).reverse).reverse

/-- The lines of a text. A line ends with a line feed, which a carriage return may precede; nothing
follows a last line feed. -/
def lines (text : String) : List String :=
  go [] text.toList
where
  /-- Reads on in a line whose characters so far are `line`, last one first. -/
  go (line : List Char) : List Char → List String
    | [] => if line.isEmpty then [] else [String.ofList line.reverse]
    | '\n' :: rest =>
      let line := match line with
        | '\r' :: before => before
        | _ => line
      String.ofList line.reverse :: go [] rest
    | c :: rest => go (c :: line) rest

/-- The pieces of a text between the occurrences of a character. -/
def splitAt (separator : Char) (text : String) : List String :=
  go [] text.toList
where
  /-- Reads on in a piece whose characters so far are `piece`, last one first. -/
  go (piece : List Char) : List Char → List String
    | [] => [String.ofList piece.reverse]
    | c :: rest =>
      if c = separator then String.ofList piece.reverse :: go [] rest else go (c :: piece) rest

end Gamebook.Text
