import Gamebook.Json.Reader
import Gamebook.Json.Printer

/-!
# Forms

A `Form` says how the values of a type stand in JSON: how they are read from text, how they are
taken from a JSON value that was read before, and which value they are written as. The forms here
are those of the basic types and the ways to build lists, pairs and optional values from them.

The two ways of reading differ in what they can report. Reading text meets problems in the order of
the text; taking a value only ever finds values of the wrong shape.
-/

namespace Gamebook

open Json (Reader Problem Mismatch Found Number)

/-- How the values of a type stand in JSON. -/
structure Form (α : Type) where
  /-- Reads a value from text, with `depth` levels of nesting to spare. -/
  read : (depth : Nat) → Reader α
  /-- Takes a value from JSON that was read before. -/
  ofJson : Json → Except Problem α
  /-- The JSON that a value is written as. -/
  toJson : α → Json

namespace Form

variable {α β : Type}

/-- Reports a value of the wrong type. -/
def wrongType (j : Json) (expected : String) : Except Problem α :=
  .error (.mismatch (.wrongType j.found expected))

/-- The form of a type that is in one-to-one correspondence with another. -/
def map (form : Form α) (forth : α → β) (back : β → α) : Form β where
  read depth := forth <$> form.read depth
  ofJson j := forth <$> form.ofJson j
  toJson b := form.toJson (back b)

/-- A text of which not every one is a value. -/
def check (form : Form α) (forth : α → Except Problem β) (back : β → α) : Form β where
  read depth := do
    let a ← form.read depth
    forth a
  ofJson j := do
    let a ← form.ofJson j
    forth a
  toJson b := form.toJson (back b)

/-- Any value at all, which is read in full. -/
def any : Form Json where
  read := Json.value
  ofJson := pure
  toJson j := j

/-- Texts, called `expected` in messages. -/
def textOf (expected : String) : Form String where
  read _ := do
    match (← Json.next?) with
    | some '"' =>
      Json.advance
      Json.string
    | _ => Json.unexpected expected
  ofJson
    | .text s => pure s
    | j => wrongType j expected
  toJson := .text

/-- Texts. -/
def text : Form String := textOf "a string"

/-- The two truth values. -/
def bool : Form Bool where
  read _ := do
    match (← Json.next?) with
    | some 't' =>
      Json.advance
      Json.word ['r', 'u', 'e']
      return true
    | some 'f' =>
      Json.advance
      Json.word ['a', 'l', 's', 'e']
      return false
    | _ => Json.unexpected "a boolean"
  ofJson
    | .bool b => pure b
    | j => wrongType j "a boolean"
  toJson := .bool

/-- Reads a number if one comes next. -/
def readNumber (expected : String) : Reader Number := do
  match (← Json.next?) with
  | some c => if c = '-' ∨ c.isDigit then Json.number else Json.unexpected expected
  | none => Json.endedIn .value

/-- A whole number between bounds. -/
def inBounds (expected : String) (least greatest : Int) : Number → Except Problem Int
  | .int n =>
    if least ≤ n ∧ n ≤ greatest then pure n else .error (.mismatch (.wrongNumber n expected))
  | .float x => .error (.mismatch (.wrongType (.float x) expected))

/-- Whole numbers between bounds, called `expected` in messages. -/
def whole (expected : String) (least greatest : Int) : Form Int where
  read _ := do
    let n ← readNumber expected
    inBounds expected least greatest n
  ofJson
    | .int n => inBounds expected least greatest (.int n)
    | j => wrongType j expected
  toJson := .int

/-- Words of 32 bits. -/
def uint32 : Form UInt32 :=
  (whole "u32" 0 maxUInt32).map (fun n => UInt32.ofNat n.toNat) (fun n => n.toNat)

/-- Words of 64 bits. -/
def uint64 : Form UInt64 :=
  (whole "u64" 0 maxUInt64).map (fun n => UInt64.ofNat n.toNat) (fun n => n.toNat)

/-- Counts of things, as words of 64 bits. -/
def count : Form UInt64 :=
  (whole "usize" 0 maxUInt64).map (fun n => UInt64.ofNat n.toNat) (fun n => n.toNat)

/-- Signed words of 64 bits. -/
def int64 : Form Int64 :=
  (whole "i64" minInt64 maxInt64).map Int64.ofInt Int64.toInt

/-- Doubles. A whole number is read as the nearest one. -/
def float : Form Float where
  read _ := do
    let n ← readNumber "f64"
    return n.toFloat
  ofJson
    | .int n => pure (Number.int n).toFloat
    | .float x => pure x
    | j => wrongType j "f64"
  toJson := .float

/-- Values that may be missing, for which `null` stands. -/
def optional (form : Form α) : Form (Option α) where
  read depth := do
    match (← Json.next?) with
    | some 'n' =>
      Json.advance
      Json.word ['u', 'l', 'l']
      return none
    | _ => some <$> form.read depth
  ofJson
    | .null => pure none
    | j => some <$> form.ofJson j
  toJson
    | none => .null
    | some a => form.toJson a

/-- Lists of any length. -/
def list (form : Form α) : Form (List α) where
  read depth := do
    match (← Json.next?) with
    | some '[' =>
      match depth with
      | 0 => Json.breached .tooDeep
      | depth + 1 =>
        Json.advance
        Json.listFrom true (form.read depth)
    | _ => Json.unexpected "a sequence"
  ofJson
    | .list items => items.mapM form.ofJson
    | j => wrongType j "a sequence"
  toJson items := .list (items.map form.toJson)

/-- What is expected where a pair stands. -/
def pairWord : String := "a tuple of size 2"

/-- Reports a list that is too long for what it stands for. -/
def tooLong (length : Nat) : Problem :=
  .mismatch (.wrongLength length "fewer elements in array")

/-- Pairs, as lists of two elements. -/
def pair (first : Form α) (second : Form β) : Form (α × β) where
  read depth := do
    match (← Json.next?) with
    | some '[' =>
      match depth with
      | 0 => Json.breached .tooDeep
      | depth + 1 =>
        Json.advance
        unless (← Json.hasElement true) do
          Json.mismatched (.wrongLength 0 pairWord)
        let a ← first.read depth
        unless (← Json.hasElement false) do
          Json.mismatched (.wrongLength 1 pairWord)
        let b ← second.read depth
        Json.closeList
        return (a, b)
    | _ => Json.unexpected pairWord
  ofJson
    | .list [] => .error (.mismatch (.wrongLength 0 pairWord))
    | .list [x] => do
      let _ ← first.ofJson x
      .error (.mismatch (.wrongLength 1 pairWord))
    | .list (x :: y :: more) => do
      let a ← first.ofJson x
      let b ← second.ofJson y
      if more.isEmpty then pure (a, b) else .error (tooLong (2 + more.length))
    | j => wrongType j pairWord
  toJson p := .list [first.toJson p.1, second.toJson p.2]

/-! ## Names -/

/-- The value that a name stands for. -/
def named (cases : List (String × α)) (name : String) : Except Problem α :=
  match cases.lookup name with
  | some a => pure a
  | none => .error (.mismatch (.unknownName name (cases.map Prod.fst)))

/-- Reads a name, in the place of a tag. -/
def readTag : Reader String := (textOf "variant identifier").read 0

/-- Reads `null`. -/
def readNull : Reader Unit := do
  match (← Json.next?) with
  | some 'n' =>
    Json.advance
    Json.word ['u', 'l', 'l']
  | _ => Json.unexpected "unit"

/-- Values with names: `cases` lists the names, `nameOf` finds them. A name may also be the only
member of an object, with the value `null`. -/
def choice (cases : List (String × α)) (nameOf : α → String) : Form α where
  read depth := do
    match (← Json.next?) with
    | none => Json.endedIn .value
    | some '"' =>
      Json.advance
      let name ← Json.string
      named cases name
    | some '{' =>
      match depth with
      | 0 => Json.breached .tooDeep
      | _ + 1 =>
        Json.advance
        let name ← readTag
        let a ← named cases name
        Json.colon
        readNull
        match (← Json.next?) with
        | none => Json.endedIn .object
        | some '}' =>
          Json.advance
          return a
        | some _ => Json.breached .valueExpected
    | some _ => Json.breached .valueExpected
  ofJson
    | .text name => named cases name
    | .object [(name, v)] => do
      let a ← named cases name
      match v with
      | .null => pure a
      | v => wrongType v "unit"
    | .object _ => .error (.mismatch (.wrongObject "map with a single key"))
    | j => wrongType j "string or map"
  toJson a := .text (nameOf a)

/-! ## Whole texts -/

/-- Reads a text that holds one value. -/
def parse (form : Form α) (s : String) : Except Problem α :=
  Json.readAll (form.read Json.maxDepth) s

/-- The text of a value, laid out over lines. -/
def pretty (form : Form α) (a : α) : String := (form.toJson a).pretty

end Form

end Gamebook
