import Gamebook.Json.Basic

/-!
# Writing JSON text

The text of a value, either on one line or laid out with an indent of two spaces. Strings are
written as they are, except for the quote, the backslash and the control characters.
-/

namespace Gamebook.Json

/-- The four hexadecimal digits of a control character. -/
def hexFour (n : Nat) : List Char :=
  let digits := Text.hexDigits n
  List.replicate (4 - digits.length) '0' ++ digits

/-- A character as it stands in a string. -/
def escapedChar (c : Char) : List Char :=
  match c with
  | '"' => ['\\', '"']
  | '\\' => ['\\', '\\']
  | '\x08' => ['\\', 'b']
  | '\t' => ['\\', 't']
  | '\n' => ['\\', 'n']
  | '\x0c' => ['\\', 'f']
  | '\r' => ['\\', 'r']
  | c => if c.toNat < 0x20 then ['\\', 'u'] ++ hexFour c.toNat else [c]

/-- A string between its quotes. -/
def stringText (s : String) : List Char := '"' :: s.toList.flatMap escapedChar ++ ['"']

/-- A whole number. -/
def intText (n : Int) : List Char :=
  if n < 0 then '-' :: Decimal.digitsOf n.natAbs else Decimal.digitsOf n.natAbs

/-- The start of a line `level` levels deep. -/
def newline (level : Nat) : List Char := '\n' :: List.replicate (2 * level) ' '

mutual

/-- The text of a value that stands `level` levels deep, one element or member a line. -/
def laidOut (level : Nat) : Json → List Char
  | null => ['n', 'u', 'l', 'l']
  | bool true => ['t', 'r', 'u', 'e']
  | bool false => ['f', 'a', 'l', 's', 'e']
  | int n => intText n
  | float x => floatSpelling.text x
  | text s => stringText s
  | list [] => ['[', ']']
  | list (item :: items) =>
    '[' :: newline (level + 1) ++ laidOut (level + 1) item ++ laidOutItems (level + 1) items
      ++ newline level ++ [']']
  | object [] => ['{', '}']
  | object (member :: members) =>
    '{' :: newline (level + 1) ++ laidOutMember (level + 1) member
      ++ laidOutMembers (level + 1) members ++ newline level ++ ['}']

/-- The elements after the first, each after a comma. -/
def laidOutItems (level : Nat) : List Json → List Char
  | [] => []
  | item :: items => ',' :: newline level ++ laidOut level item ++ laidOutItems level items

/-- The members after the first, each after a comma. -/
def laidOutMembers (level : Nat) : List (String × Json) → List Char
  | [] => []
  | member :: members =>
    ',' :: newline level ++ laidOutMember level member ++ laidOutMembers level members

/-- A member. -/
def laidOutMember (level : Nat) : String × Json → List Char
  | (name, value) => stringText name ++ ':' :: ' ' :: laidOut level value

end

mutual

/-- The text of a value on one line, without white space. -/
def compact : Json → List Char
  | null => ['n', 'u', 'l', 'l']
  | bool true => ['t', 'r', 'u', 'e']
  | bool false => ['f', 'a', 'l', 's', 'e']
  | int n => intText n
  | float x => floatSpelling.text x
  | text s => stringText s
  | list [] => ['[', ']']
  | list (item :: items) => '[' :: compact item ++ compactItems items ++ [']']
  | object [] => ['{', '}']
  | object (member :: members) =>
    '{' :: compactMember member ++ compactMembers members ++ ['}']

/-- The elements after the first, each after a comma. -/
def compactItems : List Json → List Char
  | [] => []
  | item :: items => ',' :: compact item ++ compactItems items

/-- The members after the first, each after a comma. -/
def compactMembers : List (String × Json) → List Char
  | [] => []
  | member :: members => ',' :: compactMember member ++ compactMembers members

/-- A member. -/
def compactMember : String × Json → List Char
  | (name, value) => stringText name ++ ':' :: compact value

end

/-- The text of a value, laid out over lines. -/
def pretty (j : Json) : String := String.ofList (laidOut 0 j)

/-- The text of a value on one line. -/
def oneLine (j : Json) : String := String.ofList (compact j)

end Gamebook.Json
