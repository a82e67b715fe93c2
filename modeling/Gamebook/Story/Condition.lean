import Gamebook.Json.Record
import Gamebook.Story.Flag

/-!
# Conditions

A condition compares something that is known about the player with a fixed value. Kinds and
operators that are not known make a condition false, so that a story written for a later version
can still be played.
-/

namespace Gamebook

/-- What a condition looks at. -/
inductive Aspect where
  /-- Whether an item is carried. -/
  | item
  /-- The value of a flag. -/
  | flag
  /-- The score of a relationship. -/
  | relationship
  /-- Whether a scene has been visited. -/
  | visited
  /-- The points; the key does not matter. -/
  | score
  /-- Something that is not known. -/
  | unrecognized (name : String)
  deriving Repr, DecidableEq

namespace Aspect

/-- The aspect with a name. -/
def ofName (name : String) : Aspect :=
  if name = "item" then item
  else if name = "flag" then flag
  else if name = "relationship" then relationship
  else if name = "visited" then visited
  else if name = "score" then score
  else unrecognized name

/-- The name of an aspect. -/
def name : Aspect → String
  | item => "item"
  | flag => "flag"
  | relationship => "relationship"
  | visited => "visited"
  | score => "score"
  | unrecognized name => name

end Aspect

/-- How a condition compares. -/
inductive Operator where
  | eq
  | ne
  | gt
  | lt
  | ge
  | le
  /-- An operator that is not known. -/
  | unrecognized (symbol : String)
  deriving Repr, DecidableEq

namespace Operator

/-- The operator with a symbol. -/
def ofSymbol (symbol : String) : Operator :=
  if symbol = "==" then eq
  else if symbol = "!=" then ne
  else if symbol = ">" then gt
  else if symbol = "<" then lt
  else if symbol = ">=" then ge
  else if symbol = "<=" then le
  else unrecognized symbol

/-- The symbol of an operator. -/
def symbol : Operator → String
  | eq => "=="
  | ne => "!="
  | gt => ">"
  | lt => "<"
  | ge => ">="
  | le => "<="
  | unrecognized symbol => symbol

/-- Whether a comparison holds between a value, which may be missing, and the expected one. A
missing value is unequal to all others and has no order. -/
def compare (op : Operator) (actual : Option FlagValue) (expected : FlagValue) : Bool :=
  let order := actual.bind (·.order expected)
  let equal := actual.any (·.looselyEquals expected)
  match op with
  | eq => equal
  | ne => !equal
  | gt => order = some .gt
  | lt => order = some .lt
  | ge => order = some .gt || order = some .eq
  | le => order = some .lt || order = some .eq
  | unrecognized _ => false

end Operator

/-- What conditions can learn about a player. -/
structure Facts where
  hasItem : String → Bool
  flag? : String → Option FlagValue
  /-- The score of a relationship; zero when there is none. -/
  relationship : String → Int64
  hasVisited : String → Bool
  points : UInt32

/-- A comparison of something known about the player with a fixed value. -/
structure Condition where
  aspect : Aspect
  key : String
  value : FlagValue
  operator : Operator
  deriving DecidableEq

namespace Condition

/-- The player carries an item. -/
def hasItem (item : String) : Condition := ⟨.item, item, .bool true, .eq⟩

/-- A scene has been visited. -/
def visited (scene : String) : Condition := ⟨.visited, scene, .bool true, .eq⟩

/-- The player has at least so many points. -/
def scoreAtLeast (points : UInt32) : Condition :=
  ⟨.score, "totalPoints", .integer (Int64.ofInt points.toNat), .ge⟩

/-- A relationship has reached a level. -/
def relationshipAtLeast (character : String) (level : Int64) : Condition :=
  ⟨.relationship, character, .integer level, .ge⟩

/-- Whether a condition holds. -/
def holds (c : Condition) (facts : Facts) : Bool :=
  match c.aspect with
  | .item => c.operator.compare (some (.bool (facts.hasItem c.key))) c.value
  | .flag => c.operator.compare (facts.flag? c.key) c.value
  | .relationship => c.operator.compare (some (.integer (facts.relationship c.key))) c.value
  | .visited => c.operator.compare (some (.bool (facts.hasVisited c.key))) c.value
  | .score => c.operator.compare (some (.integer (Int64.ofInt facts.points.toNat))) c.value
  | .unrecognized _ => false

/-- Whether all conditions hold. -/
def allHold (conditions : List Condition) (facts : Facts) : Bool :=
  conditions.all (·.holds facts)

/-- A condition as it is shown to authors. -/
def display (c : Condition) : String :=
  c.aspect.name ++ ":" ++ c.key ++ " " ++ c.operator.symbol ++ " " ++ c.value.display

/-! ## In JSON -/

/-- The fields of a condition. -/
def fields : Fields [Aspect, String, FlagValue, Operator] :=
  .cons (.required "type" (Form.text.map Aspect.ofName Aspect.name)) <|
  .cons (.required "key" .text) <|
  .cons (.required "value" FlagValue.form) <|
  .cons (.required "operator" (Form.text.map Operator.ofSymbol Operator.symbol)) .nil

/-- Conditions in JSON. -/
def form : Form Condition :=
  (Form.record "SceneCondition" fields).map
    (fun (aspect, key, value, operator, ()) => { aspect, key, value, operator })
    (fun c => (c.aspect, c.key, c.value, c.operator, ()))

end Condition

end Gamebook
