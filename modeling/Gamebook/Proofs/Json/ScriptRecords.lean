import Gamebook.Proofs.Json.ScriptForms
import Gamebook.Proofs.Json.Skipping

/-!
# Records on scripts

A record makes of an object what its members put into the slots of the fields, one after the other,
and of a list what its elements give to the fields in order. A tagged union keeps the members of an
object, and takes them once the tag is known.

## Key results

- `Fields.put`: what a member puts into the slots
- `Fields.fromItems`: what the elements of a list give to the fields
- `Form.gives_record`: what a record makes of a script
- `Form.gives_tagged`: what a tagged union makes of it
-/

namespace Gamebook

open Json (Reader Gap Closes Gives outcome Script Spaced Letter Token)
open Json.Script (itemsText membersText)
open Reading

/-! ## Records -/

namespace Fields

variable {ts : List Type} {α : Type} {gap rest : List Char}

/-- Puts what a member holds into the slot of its field. `take` says what a form makes of it. -/
def put {V : Type} (take : {α : Type} → Form α → V → Option α) :
    {ts : List Type} → Fields ts → Slots ts → (name : String) → V → Option (Slots ts)
  | _, .nil, slots, _, _ => some slots
  | _, .cons field rest, (slot, slots), name, v =>
    if name = field.name then
      match slot with
      | some _ => none
      | none => (take field.form v).map fun a => (some a, slots)
    else (rest.put take slots name v).map fun slots => (slot, slots)

section

variable {V : Type} {take : {α : Type} → Form α → V → Option α} (field : Field α) (rest : Fields ts)
  (slots : Slots ts) (v : V)

/-- A field that was met before is not taken again. -/
theorem put_again (a : α) :
    (Fields.cons field rest).put take (some a, slots) field.name v = none := if_pos rfl

/-- A field that is met for the first time fills its slot. -/
theorem put_same :
    (Fields.cons field rest).put take (none, slots) field.name v =
      (take field.form v).map fun a => ((some a, slots) : Option α × Slots ts) := if_pos rfl

/-- A member with another name is left to the other fields. -/
theorem put_other (slot : Option α) {name : String} (hne : name ≠ field.name) :
    (Fields.cons field rest).put take (slot, slots) name v =
      (rest.put take slots name v).map fun slots => ((slot, slots) : Option α × Slots ts) :=
  if_neg hne

end

/-- Takes scripts, with some levels of nesting to spare. -/
abbrev putScript (depth : Nat) (fields : Fields ts) (slots : Slots ts) (name : String)
    (script : Script) : Option (Slots ts) :=
  fields.put (fun form script => form.take depth script) slots name script

/-- A member is put into its slot once it is read. -/
theorem stepGives_readMember {fields : Fields ts} (hfields : fields.All Form.Settled) (depth : Nat)
    (script : Script) :
    Json.StepGives (fields.readMember depth) (fields.putScript depth) script := by
  intro slots name gap before rest hgap hbefore hrest
  induction fields with
  -- A member that no field is named for is skipped.
  | nil =>
    refine (toOption_bind_ok _ (Json.colon_gap hgap _)).trans ?_
    exact toOption_bind_ok _ (Json.skipValue_text script hbefore hrest)
  | cons field others ih =>
    obtain ⟨slot, slots⟩ := slots
    obtain ⟨hfield, hothers⟩ := hfields
    by_cases hname : name = field.name
    · subst hname
      cases slot with
      | some a =>
        -- The field was met before, which is a problem whatever the value is.
        rw [readMember_again depth field others a slots]
        refine (toOption_eq_none fun _ => Json.mismatched_ne_ok _).trans ?_
        exact (congrArg (Option.map _) (put_again field others slots script a)).symm
      | none =>
        rw [readMember_same depth field others]
        refine (toOption_bind_ok _ (Json.colon_gap hgap _)).trans ?_
        refine (bind_toOption _ (hfield depth script before rest hbefore hrest)).trans ?_
        unfold putScript
        rw [put_same field others slots script]
        cases field.form.take depth script <;> rfl
    -- Members with other names pass by the field, whatever its slot holds.
    · rw [readMember_other depth field others slot slots hname]
      refine (bind_toOption _ (ih hothers slots)).trans ?_
      unfold putScript
      rw [put_other field others slots script slot hname]
      cases others.put (fun form script => form.take depth script) slots name script <;> rfl

/-- What the elements of a list make of the fields, in order. Defaults fill those that are left. -/
def fromItems (depth : Nat) :
    {ts : List Type} → Fields ts → List (Spaced Script) → Option (Row ts)
  | _, .nil, [] => some ()
  | _, .nil, _ :: _ => none
  | _, .cons field rest, [] =>
    field.default.bind fun a => (rest.fromItems depth []).map fun row => (a, row)
  | _, .cons field rest, x :: items =>
    (field.form.take depth x.it).bind fun a => (rest.fromItems depth items).map fun row => (a, row)

/-- Reads the fields as the elements of a list, and its end. -/
private def readList (depth : Nat) (expected : String) (fields : Fields ts) (position : Nat) :
    Reader (Row ts) := do
  let row ← fields.readElements depth expected position
  Json.closeList
  return row

/-- Three readers in a row, of which the last one only has to succeed. -/
private theorem then_last {α β γ : Type} (first : Reader α) (next : α → Reader β) (f : α → β → γ)
    (last : Reader Unit) :
    ((first >>= fun a => next a >>= fun b => pure (f a b)) >>= fun c => last >>= fun _ => pure c) =
      first >>= fun a => (next a >>= fun b => last >>= fun _ => pure b) >>= fun b =>
        pure (f a b) := by
  simp only [bind_assoc, pure_bind]

/-- A row is read from a list by its first field, and then by the others. -/
private theorem readList_cons (depth : Nat) (expected : String) (field : Field α) (rest : Fields ts)
    (position : Nat) :
    readList depth expected (.cons field rest) position = (do
      let a ← readElements.readElement depth expected field position
      let row ← readList depth expected rest (position + 1)
      return (a, row) : Reader (Row (α :: ts))) := by
  exact then_last _ _ Prod.mk _

/-- A row is taken of the elements of a list. -/
private theorem readList_items {fields : Fields ts} (hfields : fields.All Form.Settled)
    (depth : Nat) (expected : String) (position : Nat) (hgap : Gap gap)
    (items : List (Spaced Script)) (rest : List Char) :
    (fields.readList depth expected position
      (gap ++ (itemsText (position == 0) items ++ ']' :: rest))).toOption =
        (fields.fromItems depth items).map (·, rest) := by
  -- Along the fields: the white space behind one element is that before the comma of the next.
  induction fields generalizing position gap items with
  | nil =>
    cases items with
    | nil => exact toOption_bind_ok _ (Json.closeList_gap hgap rest)
    | cons x items =>
      -- More elements than fields.
      refine toOption_eq_none fun read h => ?_
      obtain ⟨_, _, helements, h⟩ := of_bind_ok h
      obtain ⟨-, rfl⟩ := Prod.mk.inj (Except.ok.inj helements)
      obtain ⟨_, _, hclose, -⟩ := of_bind_ok h
      exact Json.closeList_text_ne_ok _ hgap x items _ _ hclose
  | cons field others ih =>
    obtain ⟨hfield, hothers⟩ := hfields
    rw [readList_cons]
    cases items with
    | nil =>
      -- Fewer elements than fields: the end is seen, and nothing is consumed for the default.
      have helement : (readElements.readElement depth expected field position
          (gap ++ (itemsText (position == 0) [] ++ ']' :: rest))).toOption =
            field.default.map (·, ']' :: rest) := by
        unfold readElements.readElement
        refine (toOption_bind_ok _ (Json.hasElement_end _ hgap rest)).trans ?_
        cases field.default <;> rfl
      refine (bind_toOption _ helement).trans ?_
      unfold fromItems
      cases field.default with
      | none => rfl
      | some a =>
        rw [Option.bind_some, Option.bind_some]
        refine (bind_toOption _ (ih hothers (position + 1) Json.gap_nil [])).trans ?_
        cases others.fromItems depth [] <;> rfl
    | cons x items =>
      have helement : (readElements.readElement depth expected field position
          (gap ++ (itemsText (position == 0) (x :: items) ++ ']' :: rest))).toOption =
            (field.form.take depth x.it).map
              (·, x.after.text ++ (itemsText false items ++ ']' :: rest)) := by
        unfold readElements.readElement
        rw [Script.itemsText_cons, bind_ok _ (Json.hasElement_text _ hgap x.before.isGap x.it _)]
        exact (hfield depth x.it).bare
          (Json.closes_gap x.after.isGap (Json.closes_itemsText items rest))
      refine (bind_toOption _ helement).trans ?_
      unfold fromItems
      cases field.form.take depth x.it with
      | none => rfl
      | some a =>
        rw [Option.bind_some, Option.bind_some]
        refine (bind_toOption _ (ih hothers (position + 1) x.after.isGap items)).trans ?_
        cases others.fromItems depth items <;> rfl

end Fields

namespace Form

variable {ts : List Type} {gap rest : List Char}

/-- What the form of a record makes of a script. -/
def recordParts (fields : Fields ts) (depth : Nat) : Script → Option (Row ts)
  | .token _ => none
  | .list _ items => Json.inside depth fun depth => fields.fromItems depth items
  | .object _ members => Json.inside depth fun depth =>
    (members.foldlM (Json.putMember (fields.putScript depth)) (Slots.empty ts)).bind fun slots =>
      (fields.fill slots).toOption

/-- A record is taken of a list of its fields, or of an object with its fields as members. -/
theorem gives_record (name : String) {fields : Fields ts} (hfields : fields.All Form.Settled)
    (depth : Nat) (script : Script) :
    Gives ((record name fields).read depth) script (recordParts fields depth script) := by
  have hother : ∀ {script : Script} {rest : List Char},
      ((Json.unexpected ("struct " ++ name) : Reader (Row ts))
        (script.text ++ rest)).toOption = none :=
    toOption_eq_none fun _ => Json.unexpected_ne_ok _
  refine read_opening rfl fun rest _ => ?_
  cases script with
  | token t =>
    -- No token begins with a bracket or a brace.
    obtain ⟨hlist, hobject⟩ := Script.opening_token_ne t
    simp only
    exact hother
  | list blank items =>
    cases depth with
    | zero => rfl
    | succ depth =>
      rw [Script.text_list]
      refine (toOption_bind_ok _ (Json.advance_cons _ _)).trans ?_
      -- In a list every field stands at its place.
      exact Fields.readList_items hfields depth _ 0 blank.isGap items rest
  | object blank members =>
    cases depth with
    | zero => rfl
    | succ depth =>
      rw [Script.text_object]
      refine (toOption_bind_ok _ (Json.advance_cons _ _)).trans ?_
      refine (bind_toOption _ (Json.objectFrom_members
        (fun m _ => Fields.stepGives_readMember hfields depth m.2.it) blank.isGap _ rest)).trans ?_
      show _ = ((members.foldlM (Json.putMember (fields.putScript depth)) (Slots.empty ts)).bind
        fun slots => (fields.fill slots).toOption).map (·, rest)
      -- The members fill the slots, and defaults fill those that are left.
      cases members.foldlM (Json.putMember (fields.putScript depth)) (Slots.empty ts) with
      | none => rfl
      | some slots => exact toOption_lift _ _

end Form

namespace Form

variable {α : Type} {gap rest : List Char}

/-! ## Tagged unions -/

/-- What a member of a tagged union is: its tag, or another member. -/
inductive Met where
  | tag (tag : String)
  | member (member : String × Json)

/-- What is met in a member of a tagged union. -/
def met (variants : List (Variant α)) (depth : Nat) (name : String) (script : Script) :
    Option Met :=
  if name = tagName then
    (script.string?.bind fun tag => (knownTag variants tag).toOption).map .tag
  else (outcome (Json.value depth) script).map fun j => .member (name, j)

/-- Keeps what was met. There is one tag only. -/
def TaggedSoFar.keep (soFar : TaggedSoFar) : Met → Option TaggedSoFar
  | .tag tag =>
    match soFar.tag with
    | some _ => none
    | none => some { soFar with tag := some tag }
  | .member member => some { soFar with members := member :: soFar.members }

/-- Takes a member of a tagged union. -/
def putTagged (variants : List (Variant α)) (depth : Nat) (soFar : TaggedSoFar) (name : String)
    (script : Script) : Option TaggedSoFar :=
  (met variants depth name script).bind soFar.keep

/-- What the form of a tagged union makes of a script. -/
def taggedParts (variants : List (Variant α)) (depth : Nat) : Script → Option α
  | .token _ => none
  | .list _ [] => none
  | .list _ (x :: items) => Json.inside depth fun depth =>
    (x.it.string?.bind fun tag => (knownTag variants tag).toOption).bind fun tag =>
      (items.mapM fun x => outcome (Json.value depth) x.it).bind fun items =>
        (ofTaggedElements variants tag items).toOption
  | .object _ members => Json.inside depth fun depth =>
    (members.foldlM (Json.putMember (putTagged variants depth)) {}).bind fun soFar =>
      (soFar.finish variants).toOption

/-- A reader goes on with the tag that it reads, if it is known. -/
private theorem readTag_then {β : Type} (variants : List (Variant α)) (script : Script)
    (f : String → Reader β) (hgap : Gap gap) (hrest : Closes rest) :
    ((do
      let tag ← readTag
      let tag ← knownTag variants tag
      f tag : Reader β) (gap ++ (script.text ++ rest))).toOption =
      (script.string?.bind fun tag => (knownTag variants tag).toOption).bind fun tag =>
        (f tag rest).toOption := by
  refine (bind_toOption _ (gives_textOf _ 0 script gap rest hgap hrest)).trans ?_
  cases script.string? with
  | none => rfl
  | some tag => exact bind_toOption _ (toOption_lift (knownTag variants tag) rest)

/-- The tag and the other members are kept once they are read. -/
private theorem stepGives_readTaggedMember (variants : List (Variant α)) (depth : Nat)
    (script : Script) :
    Json.StepGives (readTaggedMember variants depth) (putTagged variants depth) script := by
  intro soFar name gap before rest hgap hbefore hrest
  unfold readTaggedMember putTagged met TaggedSoFar.keep
  by_cases hname : name = tagName
  · rw [if_pos hname, if_pos hname]
    cases soFar.tag with
    | some tag => cases script.string?.bind fun tag => (knownTag variants tag).toOption <;> rfl
    | none =>
      simp only
      refine (toOption_bind_ok _ (Json.colon_gap hgap _)).trans ?_
      refine (readTag_then variants script _ hbefore hrest).trans ?_
      cases script.string?.bind fun tag => (knownTag variants tag).toOption <;> rfl
  · rw [if_neg hname, if_neg hname]
    refine (toOption_bind_ok _ (Json.colon_gap hgap _)).trans ?_
    -- Other members are kept as values of any kind until the tag is known.
    have hread := (Json.gives_valueParts depth script).outcome before rest hbefore hrest
    refine (bind_toOption _ hread).trans ?_
    cases outcome (Json.value depth) script <;> rfl

/-- The first element of a list is read as the tag, and the others as any values. -/
private theorem readTaggedItems_items (variants : List (Variant α)) (depth : Nat)
    (x : Spaced Script) (items : List (Spaced Script)) (rest : List Char) :
    ((do
      let tag ← readTag
      let tag ← knownTag variants tag
      let items ← Json.listFrom false (Json.value depth)
      ofTaggedElements variants tag items : Reader α)
        (x.it.text ++ (x.after.text ++ (itemsText false items ++ ']' :: rest)))).toOption =
      ((x.it.string?.bind fun tag => (knownTag variants tag).toOption).bind fun tag =>
        (items.mapM fun x => outcome (Json.value depth) x.it).bind fun items =>
          (ofTaggedElements variants tag items).toOption).map (·, rest) := by
  refine (readTag_then variants x.it _ Json.gap_nil
    (Json.closes_gap x.after.isGap (Json.closes_itemsText items rest))).trans ?_
  -- The tag must be known before the elements are read.
  cases x.it.string?.bind fun tag => (knownTag variants tag).toOption with
  | none => rfl
  | some tag =>
    have hitems := Json.listFrom_items (fun (y : Spaced Script) (_ : y ∈ items) =>
      (Json.gives_valueParts depth y.it).outcome) false x.after.isGap rest
    rw [Option.bind_some, Option.bind_some]
    refine (bind_toOption _ hitems).trans ?_
    cases items.mapM fun x => outcome (Json.value depth) x.it with
    | none => rfl
    | some read => exact toOption_lift _ _

/-- What is tagged is taken of its tag and of its other parts. -/
theorem gives_tagged (name : String) (variants : List (Variant α)) (toJson : α → Json)
    (depth : Nat) (script : Script) :
    Gives ((tagged name variants toJson).read depth) script
      (taggedParts variants depth script) := by
  have hother : ∀ {script : Script} {rest : List Char},
      ((Json.unexpected ("internally tagged enum " ++ name) : Reader α)
        (script.text ++ rest)).toOption = none :=
    toOption_eq_none fun _ => Json.unexpected_ne_ok _
  refine read_opening rfl fun rest _ => ?_
  cases script with
  | token t =>
    obtain ⟨hlist, hobject⟩ := Script.opening_token_ne t
    simp only
    exact hother
  | list blank items =>
    cases depth with
    -- Nothing is read inside a list or an object that stands too deep.
    | zero => cases items <;> rfl
    | succ depth =>
      rw [Script.text_list]
      refine (toOption_bind_ok _ (Json.advance_cons _ _)).trans ?_
      cases items with
      | nil => exact toOption_bind_ok _ (Json.hasElement_end true blank.isGap rest)
      | cons x items =>
        rw [Script.itemsText_cons]
        have hmore := Json.hasElement_text true blank.isGap x.before.isGap x.it
        refine (toOption_bind_ok _ (hmore _)).trans ?_
        exact readTaggedItems_items variants depth x items rest
  | object blank members =>
    cases depth with
    | zero => rfl
    | succ depth =>
      rw [Script.text_object]
      refine (toOption_bind_ok _ (Json.advance_cons _ _)).trans ?_
      refine (bind_toOption _ (Json.objectFrom_members
        (fun m _ => stepGives_readTaggedMember variants depth m.2.it) blank.isGap _ rest)).trans ?_
      show _ = ((members.foldlM (Json.putMember (putTagged variants depth)) {}).bind fun soFar =>
        (soFar.finish variants).toOption).map (·, rest)
      cases members.foldlM (Json.putMember (putTagged variants depth)) {} with
      | none => rfl
      | some soFar => exact toOption_lift _ _

end Form

end Gamebook
