import Gamebook.Json.Form

/-!
# Records

A record is written as an object with a member for each of its fields. It is read from an object
whose members may come in any order and may include unknown ones, or from a list of its fields in
order. A field with a default may be absent.

`Fields ts` describes the fields of a record whose values have the types `ts`; a `Row ts` holds one
value for each of them, and `Slots ts` holds those that were read so far. A tagged union is a record
of which one member, the tag, says which fields the others are.
-/

namespace Gamebook

open Json (Reader Problem)

/-- A field of a record. -/
structure Field (α : Type) where
  name : String
  form : Form α
  /-- The value of a field that is absent. -/
  default : Option α := none
  /-- The values for which the field is left out when the record is written. -/
  leftOut : α → Bool := fun _ => false

/-- The fields of a record, in order. -/
inductive Fields : List Type → Type 1 where
  | nil : Fields []
  | cons {α : Type} {ts : List Type} (field : Field α) (rest : Fields ts) : Fields (α :: ts)

/-- A value for each field. -/
def Row : List Type → Type
  | [] => Unit
  | α :: ts => α × Row ts

/-- The values that were read so far. -/
def Slots : List Type → Type
  | [] => Unit
  | α :: ts => Option α × Slots ts

/-- Nothing was read so far. -/
def Slots.empty : (ts : List Type) → Slots ts
  | [] => ()
  | _ :: ts => (none, Slots.empty ts)

namespace Field

variable {α : Type}

/-- A field that must be present. -/
def required (name : String) (form : Form α) : Field α := { name, form }

/-- A field with a value for when it is absent. -/
def withDefault (name : String) (form : Form α) (default : α) : Field α :=
  { name, form, default := some default }

/-- A field that is absent when there is no value. -/
def optional (name : String) (form : Form α) : Field (Option α) :=
  { name, form := form.optional, default := some none, leftOut := Option.isNone }

/-- A field that is absent when the list is empty. -/
def list (name : String) (form : Form α) : Field (List α) :=
  { name, form := form.list, default := some [], leftOut := List.isEmpty }

end Field

namespace Fields

variable {ts : List Type}

/-- The number of fields. -/
def size : {ts : List Type} → Fields ts → Nat
  | _, .nil => 0
  | _, .cons _ rest => rest.size + 1

/-! ## Writing -/

/-- The members that a record is written as. -/
def members : {ts : List Type} → Fields ts → Row ts → List (String × Json)
  | _, .nil, _ => []
  | _, .cons field rest, (a, row) =>
    if field.leftOut a then rest.members row
    else (field.name, field.form.toJson a) :: rest.members row

/-! ## Reading text -/

/-- Reads a member, from the colon on. -/
def readMember (depth : Nat) :
    {ts : List Type} → Fields ts → Slots ts → (name : String) → Reader (Slots ts)
  | _, .nil, slots, _ => do
    Json.colon
    Json.skipValue
    return slots
  | _, .cons field rest, (slot, slots), name =>
    if name = field.name then
      match slot with
      | some _ => Json.mismatched (.repeatedField name)
      | none => do
        Json.colon
        let a ← field.form.read depth
        return (some a, slots)
    else do
      let slots ← readMember depth rest slots name
      return (slot, slots)

/-- Fills the fields that are absent with their defaults. -/
def fill : {ts : List Type} → Fields ts → Slots ts → Except Problem (Row ts)
  | _, .nil, _ => pure ()
  | _, .cons field rest, (slot, slots) => do
    let a ← match slot, field.default with
      | some a, _ => pure a
      | none, some a => pure a
      | none, none => .error (.mismatch (.missingField field.name))
    let row ← rest.fill slots
    pure (a, row)

/-- Reads the fields as the elements of a list, of which `position` were read already. -/
def readElements (depth : Nat) (expected : String) :
    {ts : List Type} → Fields ts → (position : Nat) → Reader (Row ts)
  | _, .nil, _ => return ()
  | _, .cons field rest, position => do
    let a ← readElement field position
    let row ← readElements depth expected rest (position + 1)
    return (a, row)
where
  /-- Reads one element, or takes the default when none follows. -/
  readElement {α : Type} (field : Field α) (position : Nat) : Reader α := do
    if (← Json.hasElement (position == 0)) then
      field.form.read depth
    else
      match field.default with
      | some a => return a
      | none => Json.mismatched (.wrongLength position expected)

/-! ## Taking values -/

/-- Takes a member. -/
def takeMember :
    {ts : List Type} → Fields ts → Slots ts → (name : String) → Json → Except Problem (Slots ts)
  | _, .nil, slots, _, _ => pure slots
  | _, .cons field rest, (slot, slots), name, j =>
    if name = field.name then
      match slot with
      | some _ => .error (.mismatch (.repeatedField name))
      | none => do
        let a ← field.form.ofJson j
        pure (some a, slots)
    else do
      let slots ← takeMember rest slots name j
      pure (slot, slots)

/-- Takes the members of an object. -/
def ofMembers (fields : Fields ts) (members : List (String × Json)) : Except Problem (Row ts) := do
  let slots ← members.foldlM (fun slots member => fields.takeMember slots member.1 member.2)
    (Slots.empty ts)
  fields.fill slots

/-- Takes the elements of a list of which `position` were taken already, and what is left of it. -/
def takeElements (expected : String) :
    {ts : List Type} → Fields ts → (position : Nat) → List Json →
      Except Problem (Row ts × List Json)
  | _, .nil, _, items => pure ((), items)
  | _, .cons field rest, position, items => do
    let (a, items) ← match items, field.default with
      | j :: items, _ => do
        let a ← field.form.ofJson j
        pure (a, items)
      | [], some a => pure (a, [])
      | [], none => .error (.mismatch (.wrongLength position expected))
    let (row, items) ← rest.takeElements expected (position + 1) items
    pure ((a, row), items)

/-- What is expected where the fields stand as a list. -/
def asList (label : String) (fields : Fields ts) : String :=
  label ++ " with " ++ toString fields.size ++
    (if fields.size = 1 then " element" else " elements")

/-- Takes the elements of a list, which has to end with the last field. -/
def ofElements (label : String) (fields : Fields ts) (tooLong : Nat → Problem)
    (items : List Json) : Except Problem (Row ts) := do
  let (row, rest) ← fields.takeElements (fields.asList label) 0 items
  if rest.isEmpty then pure row else .error (tooLong items.length)

end Fields

namespace Form

variable {ts : List Type} {α : Type}

/-- Records, called `struct` and their name in messages. -/
def record (name : String) (fields : Fields ts) : Form (Row ts) where
  read depth := do
    match (← Json.next?) with
    | some '[' =>
      match depth with
      | 0 => Json.breached .tooDeep
      | depth + 1 =>
        Json.advance
        let row ← fields.readElements depth (fields.asList ("struct " ++ name)) 0
        Json.closeList
        return row
    | some '{' =>
      match depth with
      | 0 => Json.breached .tooDeep
      | depth + 1 =>
        Json.advance
        let slots ← Json.objectFrom (fields.readMember depth) (Slots.empty ts)
        fields.fill slots
    | _ => Json.unexpected ("struct " ++ name)
  ofJson
    | .list items => fields.ofElements ("struct " ++ name) tooLong items
    | .object members => fields.ofMembers members
    | j => wrongType j ("struct " ++ name)
  toJson row := .object (fields.members row)

end Form

/-! ## Tagged unions -/

/-- A case of a tagged union. -/
structure Variant (α : Type) : Type 1 where
  tag : String
  /-- The name of the case in messages. -/
  label : String
  types : List Type
  fields : Fields types
  /-- The value with the given fields. -/
  make : Row types → α

namespace Variant

variable {α : Type}

/-- The case that a tag names. -/
def find (variants : List (Variant α)) (tag : String) : Except Problem (Variant α) :=
  match variants.find? (·.tag = tag) with
  | some v => pure v
  | none => .error (.mismatch (.unknownName tag (variants.map Variant.tag)))

/-- Reports a list that is longer than a case, which was taken in full. -/
def tooLong (size length : Nat) : Problem :=
  .mismatch (.wrongLength length
    (toString size ++ (if size = 1 then " element in sequence" else " elements in sequence")))

/-- The value of a case, from its members other than the tag. -/
def ofMembers (v : Variant α) (members : List (String × Json)) : Except Problem α :=
  v.make <$> v.fields.ofMembers members

/-- The value of a case, from its elements after the tag. -/
def ofElements (v : Variant α) (items : List Json) : Except Problem α :=
  v.make <$> v.fields.ofElements ("struct variant " ++ v.label) (tooLong v.fields.size) items

end Variant

namespace Form

variable {α : Type}

/-- The name of the member that holds the tag. -/
def tagName : String := "type"

/-- Whether a tag names one of the cases. -/
def knownTag (variants : List (Variant α)) (tag : String) : Except Problem String :=
  match Variant.find variants tag with
  | .ok _ => .ok tag
  | .error e => .error e

/-- The tag that a value is. -/
def tagOfJson (variants : List (Variant α)) : Json → Except Problem String
  | .text tag => knownTag variants tag
  | j => wrongType j "variant identifier"

/-- What was read so far of a tagged union: its tag, if it was met, and the other members, last one
first. -/
structure TaggedSoFar where
  tag : Option String := none
  members : List (String × Json) := []

/-- The value that the members of a tagged union describe. -/
def TaggedSoFar.finish (variants : List (Variant α)) (soFar : TaggedSoFar) : Except Problem α :=
  match soFar.tag with
  | none => .error (.mismatch (.missingField tagName))
  | some tag =>
    match Variant.find variants tag with
    | .ok v => v.ofMembers soFar.members.reverse
    | .error e => .error e

/-- The value that the elements after the tag describe. -/
def ofTaggedElements (variants : List (Variant α)) (tag : String) (items : List Json) :
    Except Problem α :=
  match Variant.find variants tag with
  | .ok v => v.ofElements items
  | .error e => .error e

/-- Reads a member of a tagged union, from the colon on. All but the tag is kept as it is, since the
tag may come last. -/
def readTaggedMember (variants : List (Variant α)) (depth : Nat) (soFar : TaggedSoFar)
    (name : String) : Reader TaggedSoFar :=
  if name = tagName then
    match soFar.tag with
    | some _ => Json.mismatched (.repeatedField tagName)
    | none => do
      Json.colon
      let tag ← readTag
      let tag ← knownTag variants tag
      return { soFar with tag := some tag }
  else do
    Json.colon
    let j ← Json.value depth
    return { soFar with members := (name, j) :: soFar.members }

/-- Takes a member of a tagged union. -/
def takeTaggedMember (variants : List (Variant α)) (soFar : TaggedSoFar)
    (member : String × Json) : Except Problem TaggedSoFar :=
  if member.1 = tagName then
    match soFar.tag with
    | some _ => .error (.mismatch (.repeatedField tagName))
    | none => do
      let tag ← tagOfJson variants member.2
      pure { soFar with tag := some tag }
  else
    pure { soFar with members := member :: soFar.members }

/-- Unions of records that a tag tells apart. A value is an object with the tag as one of its
members, or a list that begins with the tag. -/
def tagged (name : String) (variants : List (Variant α)) (toJson : α → Json) : Form α where
  read depth := do
    match (← Json.next?) with
    | some '[' =>
      match depth with
      | 0 => Json.breached .tooDeep
      | depth + 1 =>
        Json.advance
        if (← Json.hasElement true) then
          let tag ← readTag
          let tag ← knownTag variants tag
          let items ← Json.listFrom false (Json.value depth)
          ofTaggedElements variants tag items
        else
          Json.mismatched (.missingField tagName)
    | some '{' =>
      match depth with
      | 0 => Json.breached .tooDeep
      | depth + 1 =>
        Json.advance
        let soFar ← Json.objectFrom (readTaggedMember variants depth) {}
        soFar.finish variants
    | _ => Json.unexpected ("internally tagged enum " ++ name)
  ofJson
    | .list [] => .error (.mismatch (.missingField tagName))
    | .list (j :: items) => do
      let tag ← tagOfJson variants j
      ofTaggedElements variants tag items
    | .object members => do
      let soFar ← members.foldlM (takeTaggedMember variants) {}
      soFar.finish variants
    | j => wrongType j ("internally tagged enum " ++ name)
  toJson

end Form

end Gamebook
