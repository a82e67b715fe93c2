import Gamebook.Decimal.Spelling
import Gamebook.Decimal.Literal
import Gamebook.Text.Quoted

/-!
# JSON values

The values that JSON text stands for, and what a reader says when a value has the wrong shape.
Whole numbers and numbers with a point or an exponent are kept apart. The members of an object are
kept in the order of the text, repeated names included.
-/

namespace Gamebook

/-- A JSON value. -/
inductive Json where
  | null
  | bool (b : Bool)
  | int (n : Int)
  | float (x : Float)
  | text (s : String)
  | list (items : List Json)
  | object (members : List (String × Json))
  deriving Inhabited, BEq

namespace Json

/-- Floats in JSON text: the fewest digits, with a point or an exponent to tell them from whole
numbers. JSON has no text for what is not a finite number, so `null` stands in for it. -/
def floatSpelling : Decimal.Spelling where
  tie := .toEven
  pointZero := true
  positional := some (-5, 16)
  nan := "null"
  infinity := "null"
  negativeInfinity := "null"

/-- What a reader came upon. -/
inductive Found where
  | null
  | bool (b : Bool)
  | int (n : Int)
  | float (x : Float)
  | text (s : String)
  | list
  | object

/-- The name of a found thing in messages. -/
def Found.describe : Found → String
  | null => "null"
  | bool b => "boolean `" ++ toString b ++ "`"
  | int n => "integer `" ++ toString n ++ "`"
  | float x => "floating point `" ++ String.ofList (floatSpelling.text x) ++ "`"
  | text s => "string " ++ Text.quoted s
  | list => "sequence"
  | object => "map"

/-- The kind of a value, as a reader finds it. -/
def found : Json → Found
  | null => .null
  | bool b => .bool b
  | int n => .int n
  | float x => .float x
  | text s => .text s
  | list _ => .list
  | object _ => .object

/-- A number as JSON text writes it. -/
inductive Number where
  | int (n : Int)
  | float (x : Float)

/-- A number as a value. -/
def Number.toJson : Number → Json
  | int n => .int n
  | float x => .float x

/-- A number as a found thing. -/
def Number.found : Number → Found
  | int n => .int n
  | float x => .float x

/-- A number as a double. -/
def Number.toFloat : Number → Float
  | int n => Decimal.ofInt n
  | float x => x

end Json

end Gamebook
