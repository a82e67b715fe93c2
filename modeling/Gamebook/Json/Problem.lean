import Gamebook.Json.Basic

/-!
# What can be wrong with JSON text

A text can end too early, break the grammar, or be well formed and still not describe a value of
the wanted shape. A reader reports the first problem it meets.
-/

namespace Gamebook.Json

/-- What was being read when a text ended. -/
inductive Place where
  | list
  | object
  | string
  | value
  deriving Repr, DecidableEq

/-- A breach of the grammar. -/
inductive Breach where
  | colonExpected
  | listGoesOn
  | objectGoesOn
  | wordExpected
  | valueExpected
  | badEscape
  | badNumber
  | hugeNumber
  | controlCharacter
  | keyExpected
  | loneSurrogate
  | halfPair
  | trailingComma
  | trailingText
  | tooDeep
  deriving Repr, DecidableEq

/-- A value of the wrong shape. -/
inductive Mismatch where
  /-- A thing of another type. -/
  | wrongType (found : Found) (expected : String)
  /-- A whole number outside the bounds of its type. -/
  | wrongNumber (n : Int) (expected : String)
  /-- An object where one with a single member stands for a name. -/
  | wrongObject (expected : String)
  /-- Too few or too many elements. -/
  | wrongLength (length : Nat) (expected : String)
  /-- A name that is none of the known ones. -/
  | unknownName (name : String) (known : List String)
  | missingField (name : String)
  | repeatedField (name : String)
  /-- A value that fits none of the cases of a type. -/
  | noCase (type : String)
  /-- A text that is not written as its type asks. -/
  | badText (reason : String)

/-- What is wrong with a text. -/
inductive Problem where
  | ended (place : Place)
  | breach (breach : Breach)
  | mismatch (mismatch : Mismatch)

/-- What is said about a text that ends too early. -/
def Place.message : Place → String
  | list => "EOF while parsing a list"
  | object => "EOF while parsing an object"
  | string => "EOF while parsing a string"
  | value => "EOF while parsing a value"

/-- A name between backticks. -/
def ticked (name : String) : String := "`" ++ name ++ "`"

/-- What is said about a breach of the grammar. -/
def Breach.message : Breach → String
  | colonExpected => "expected `:`"
  | listGoesOn => "expected `,` or `]`"
  | objectGoesOn => "expected `,` or " ++ ticked (.singleton '}')
  | wordExpected => "expected ident"
  | valueExpected => "expected value"
  | badEscape => "invalid escape"
  | badNumber => "invalid number"
  | hugeNumber => "number out of range"
  | controlCharacter => "control character (\\u0000-\\u001F) found while parsing a string"
  | keyExpected => "key must be a string"
  | loneSurrogate => "lone leading surrogate in hex escape"
  | halfPair => "unexpected end of hex escape"
  | trailingComma => "trailing comma"
  | trailingText => "trailing characters"
  | tooDeep => "recursion limit exceeded"

/-- The names that would have been accepted. -/
def describeKnown (known : List String) : String :=
  match known with
  | [] => "there are no variants"
  | [a] => "expected " ++ ticked a
  | [a, b] => "expected " ++ ticked a ++ " or " ++ ticked b
  | names => "expected one of " ++ ", ".intercalate (names.map ticked)

/-- What is said about a value of the wrong shape. -/
def Mismatch.message : Mismatch → String
  | wrongType found expected => "invalid type: " ++ found.describe ++ ", expected " ++ expected
  | wrongNumber n expected =>
    "invalid value: " ++ (Found.int n).describe ++ ", expected " ++ expected
  | wrongObject expected => "invalid value: map, expected " ++ expected
  | wrongLength length expected =>
    "invalid length " ++ toString length ++ ", expected " ++ expected
  | unknownName name known => "unknown variant " ++ ticked name ++ ", " ++ describeKnown known
  | missingField name => "missing field " ++ ticked name
  | repeatedField name => "duplicate field " ++ ticked name
  | noCase type => "data did not match any variant of untagged enum " ++ type
  | badText reason => reason

/-- What is said about a problem. -/
def Problem.message : Problem → String
  | ended place => place.message
  | breach b => b.message
  | mismatch m => m.message

end Gamebook.Json
