import Gamebook.Proofs.Json.Rearranged
import Gamebook.Proofs.Json.WrittenForms

/-!
# Tolerant forms

A form is tolerant if it makes the same of every script that is written differently. Forms that read
only what has no parts are; lists are, if the forms of their elements are; and records are, if the
forms of their fields are, since the members of an object fill different slots in any order, and
those with other names fill none.

## Key results

- `Form.Tolerates`: whether a form makes the same of what is written differently
- `Settled.tolerates_of_flat`: forms of what has no parts tolerate everything
- `Tolerates.map`, `Tolerates.optional`, `Tolerates.list`: forms that are built on tolerant forms
- `tolerates_choice`: names
- `Fields.put_swap`, `Fields.put_unknown`: members change places, and unknown ones change nothing
- `tolerates_record`: records with tolerant fields
-/

namespace Gamebook

open Json (Reader Gap Closes Gives outcome Script Spaced Letter Token Shape Change)
open Reading

namespace Form

variable {α β : Type} {form : Form α} {shape : Shape}

/-- Whether a form reads nothing but scripts, wherever they stand, and makes the same of every
script of some shape that is written differently. -/
structure Tolerates (form : Form α) (shape : Shape) : Prop where
  covered : form.Covered
  settled : form.Settled
  keeps : ∀ {depth script script' a}, Change shape script script' →
    form.take depth script = some a → form.take depth script' = some a

/-- Whether a form reads only what has no parts. -/
def Flat (form : Form α) : Prop :=
  ∀ {depth script a}, form.take depth script = some a → ∃ t, script = .token t

/-- What has no parts cannot be written differently. -/
theorem Settled.tolerates_of_flat (hform : form.Settled) (hcovered : form.Covered)
    (hflat : form.Flat) (shape : Shape) : form.Tolerates shape where
  covered := hcovered
  settled := hform
  keeps hchange htake := by
    obtain ⟨t, rfl⟩ := hflat htake
    rwa [hchange.of_token]

/-! ## Basic forms -/

/-- A string has no parts, so any shape is tolerated. -/
theorem tolerates_textOf (expected : String) (shape : Shape) :
    (textOf expected).Tolerates shape := by
  have hgives := gives_textOf expected
  refine (settled_of_gives hgives).tolerates_of_flat (covered_textOf expected)
    (fun {depth script a} htake => ?_) shape
  rw [take_eq (hgives depth script)] at htake
  exact Script.token_of_string? htake

/-- Neither has a text. -/
theorem tolerates_text (shape : Shape) : text.Tolerates shape := tolerates_textOf "a string" shape

/-- Neither has a truth value. -/
theorem tolerates_bool (shape : Shape) : bool.Tolerates shape := by
  refine (settled_of_gives gives_bool).tolerates_of_flat covered_bool
    (fun {depth script a} htake => ?_) shape
  rw [take_eq (gives_bool depth script)] at htake
  cases script with
  | token t => exact ⟨t, rfl⟩
  | list | object => cases htake

/-- Neither has a whole number. -/
theorem tolerates_whole (expected : String) (least greatest : Int) (shape : Shape) :
    (whole expected least greatest).Tolerates shape := by
  have hgives := gives_whole expected least greatest
  refine (settled_of_gives hgives).tolerates_of_flat (covered_whole expected least greatest)
    (fun {depth script a} htake => ?_) shape
  rw [take_eq (hgives depth script)] at htake
  cases script with
  | token t => exact ⟨t, rfl⟩
  | list | object => cases htake

/-- A check on values of any form is a form of what has no parts, if only that passes. -/
theorem tolerates_check_any {forth : Json → Except Json.Problem α} (back : α → Json)
    (hforth : ∀ j a, forth j = .ok a → j.hasParts = false) (shape : Shape) :
    (any.check forth back).Tolerates shape := by
  have hgives : ∀ depth script, Gives ((any.check forth back).read depth) script
      ((Json.valueParts depth script).bind fun j => (forth j).toOption) := fun depth script =>
    gives_check (Json.gives_valueParts depth script) forth back
  refine (settled_of_gives hgives).tolerates_of_flat (covered_any.check forth back)
    (fun {depth script a} htake => ?_) shape
  rw [take_eq (hgives depth script)] at htake
  obtain ⟨j, hj, ha⟩ := Option.bind_eq_some_iff.1 htake
  exact Json.token_of_valueParts hj (hforth j a (toOption_eq_some.1 ha))

/-- A form in one-to-one correspondence tolerates what the other form does. -/
theorem Tolerates.map (h : form.Tolerates shape) (forth : α → β) (back : β → α) :
    (form.map forth back).Tolerates shape where
  covered := h.covered.map forth back
  settled := settled_of_gives fun depth script => gives_map (h.settled depth script) forth back
  keeps {depth script script' b} hchange htake := by
    rw [take_eq (gives_map (h.settled depth _) forth back)] at htake ⊢
    obtain ⟨a, ha, rfl⟩ := Option.map_eq_some_iff.1 htake
    rw [h.keeps hchange ha]
    rfl

/-- Neither has a whole number of 32 bits. -/
theorem tolerates_uint32 (shape : Shape) : uint32.Tolerates shape :=
  (tolerates_whole "u32" 0 maxUInt32 shape).map _ _

/-- Optional values are tolerated if those are that are there. -/
theorem Tolerates.optional (h : form.Tolerates shape) : form.optional.Tolerates shape where
  covered := h.covered.optional
  settled := settled_of_gives (gives_optional h.settled)
  keeps {depth script script' b} hchange htake := by
    rw [take_eq (gives_optional h.settled depth _)] at htake ⊢
    rw [hchange.isNull_eq]
    split at htake
    next hnull => rwa [if_pos hnull]
    next hnull =>
      rw [if_neg hnull]
      obtain ⟨a, ha, rfl⟩ := Option.map_eq_some_iff.1 htake
      rw [h.keeps hchange ha]
      rfl

/-- Lists are tolerated if their elements are. -/
theorem Tolerates.list (h : form.Tolerates shape) : form.list.Tolerates (.list shape) where
  covered := h.covered.list
  settled := settled_of_gives (gives_list h.settled)
  keeps {depth script script' b} hchange htake := by
    rw [take_eq (gives_list h.settled depth _)] at htake ⊢
    cases hchange with
    | refl => exact htake
    | reorder | add | member => cases htake
    | item hitem =>
      cases depth with
      | zero => cases htake
      | succ depth =>
        exact Partial.mapM_replace (f := fun x : Spaced Script => form.take depth x.it)
          (fun b hb => h.keeps hitem hb) htake

/-! ## Names -/

/-- An object that stands for a name has one member only, which holds `null`. -/
private theorem of_choiceParts {cases : List (String × α)} {depth : Nat} {blank : Json.Blank}
    {m : Script.Member} {members : List Script.Member} {a : α}
    (h : choiceParts cases depth (.object blank (m :: members)) = some a) :
    members = [] ∧ m.2.it.isNull = true := by
  cases depth with
  | zero => cases h
  | succ depth =>
    obtain ⟨name, -, h⟩ := Option.bind_eq_some_iff.1 h
    obtain ⟨b, -, h⟩ := Option.bind_eq_some_iff.1 h
    split at h
    next hnull => simpa [and_comm] using hnull
    next => cases h

/-- Names are tolerated, as long as no member is added to an object that stands for one. -/
theorem tolerates_choice (cases : List (String × α)) (nameOf : α → String) :
    (choice cases nameOf).Tolerates .named where
  covered := covered_choice cases nameOf
  settled := settled_of_gives (gives_choice cases nameOf)
  keeps {depth script script' a} hchange htake := by
    rw [take_eq (gives_choice cases nameOf depth _)] at htake ⊢
    cases hchange with
    | refl => exact htake
    | item => cases htake
    -- There is only one member, and none may be added to it.
    | add _ hshape => exact absurd rfl hshape
    | @reorder _ _ _ members members' hperm =>
      cases members with
      | nil => cases htake
      | cons m members =>
        obtain ⟨rfl, -⟩ := of_choiceParts htake
        rw [List.perm_singleton.1 hperm.symm]
        exact htake
    | @member _ _ _ before after m k hname hvalue =>
      cases before with
      | nil =>
        have hnames : Script.Member.name? k = Script.Member.name? m := congrArg Letter.name? hname
        simp only [List.nil_append, choiceParts, hnames, hvalue.isNull_eq] at htake ⊢
        exact htake
      | cons first before =>
        obtain ⟨hnone, -⟩ := of_choiceParts htake
        simp at hnone

end Form

/-! ## Records -/

namespace Fields

variable {ts : List Type} {α V : Type}

/-- Whether every field of a record has a form that tolerates the shape at its place. -/
def Tolerates : {ts : List Type} → Fields ts → List Shape → Prop
  | _, .nil, _ => True
  | _, .cons field rest, shape :: shapes => field.form.Tolerates shape ∧ rest.Tolerates shapes
  | _, .cons _ _, [] => False

/-- What holds of all tolerant forms holds of all fields. -/
theorem Tolerates.all {P : {α : Type} → Form α → Prop}
    (hP : ∀ {α : Type} {form : Form α} {shape : Shape}, form.Tolerates shape → P form)
    {fields : Fields ts} {shapes : List Shape} (h : fields.Tolerates shapes) : fields.All P := by
  induction fields generalizing shapes with
  | nil => trivial
  | cons field rest ih =>
    -- Fields and shapes come in pairs.
    cases shapes with
    | nil => exact h.elim
    | cons shape shapes => exact ⟨hP h.1, ih h.2⟩

section

variable {take : {α : Type} → Form α → V → Option α}

/-- A member with the name of a field is put into the slot of that field, if that is empty. -/
theorem of_put_same {field : Field α} {rest : Fields ts} {slot : Option α} {slots : Slots ts}
    {v : V} {next : Slots (α :: ts)}
    (h : (Fields.cons field rest).put take (slot, slots) field.name v = some next) :
    slot = none ∧ ∃ a, take field.form v = some a ∧ next = (some a, slots) := by
  cases slot with
  | some a =>
    rw [put_again field rest slots v a] at h
    cases h
  | none =>
    rw [put_same field rest slots v] at h
    obtain ⟨a, ha, rfl⟩ := Option.map_eq_some_iff.1 h
    exact ⟨rfl, a, ha, rfl⟩

/-- A member with another name is left to the other fields. -/
theorem of_put_other {field : Field α} {rest : Fields ts} {slot : Option α} {slots : Slots ts}
    {name : String} {v : V} {next : Slots (α :: ts)} (hne : name ≠ field.name)
    (h : (Fields.cons field rest).put take (slot, slots) name v = some next) :
    ∃ others, rest.put take slots name v = some others ∧ next = (slot, others) := by
  rw [put_other field rest slots v slot hne] at h
  obtain ⟨others, hothers, rfl⟩ := Option.map_eq_some_iff.1 h
  exact ⟨others, hothers, rfl⟩

/-- A member fills the empty slot of its field. -/
private theorem put_same_some (field : Field α) (rest : Fields ts) (slots : Slots ts) {v : V}
    {a : α} (h : take field.form v = some a) :
    (Fields.cons field rest).put take (none, slots) field.name v = some (some a, slots) := by
  rw [put_same field rest slots v, h]
  rfl

/-- A member that another field takes leaves this field its slot. -/
private theorem put_other_some (field : Field α) (rest : Fields ts) (slot : Option α)
    {slots others : Slots ts} {name : String} {v : V} (hne : name ≠ field.name)
    (h : rest.put take slots name v = some others) :
    (Fields.cons field rest).put take (slot, slots) name v = some (slot, others) := by
  rw [put_other field rest slots v slot hne, h]
  rfl

/-- Two members fill their slots in any order. -/
theorem put_swap {fields : Fields ts} {slots next last : Slots ts} {name name' : String} {v v' : V}
    (h : fields.put take slots name v = some next)
    (h' : fields.put take next name' v' = some last) :
    ∃ next', fields.put take slots name' v' = some next' ∧
      fields.put take next' name v = some last := by
  induction fields with
  | nil => exact ⟨slots, rfl, (h.trans h').symm ▸ rfl⟩
  | cons field rest ih =>
    obtain ⟨slot, slots⟩ := slots
    -- Two members have different names, so either may be put first.
    by_cases hname : name = field.name
    · subst hname
      obtain ⟨rfl, a, ha, rfl⟩ := of_put_same h
      by_cases hname' : name' = field.name
      · -- No field takes two members.
        subst hname'
        obtain ⟨hnone, -⟩ := of_put_same h'
        cases hnone
      · obtain ⟨others, hothers, rfl⟩ := of_put_other hname' h'
        exact ⟨(none, others), put_other_some field rest none hname' hothers,
          put_same_some field rest others ha⟩
    · obtain ⟨others, hothers, rfl⟩ := of_put_other hname h
      by_cases hname' : name' = field.name
      · subst hname'
        obtain ⟨rfl, a, ha, rfl⟩ := of_put_same h'
        exact ⟨(some a, slots), put_same_some field rest slots ha,
          put_other_some field rest (some a) hname hothers⟩
      · obtain ⟨others', hothers', rfl⟩ := of_put_other hname' h'
        obtain ⟨next', hnext, hlast⟩ := ih hothers hothers'
        exact ⟨(slot, next'), put_other_some field rest slot hname' hnext,
          put_other_some field rest slot hname hlast⟩

/-- A member with a name that no field has fills no slot. -/
theorem put_unknown (fields : Fields ts) (slots : Slots ts) {name : String}
    (hname : name ∉ fields.names) (v : V) : fields.put take slots name v = some slots := by
  -- The member passes every field by.
  induction fields with
  | nil => rfl
  | cons field rest ih =>
    obtain ⟨slot, slots⟩ := slots
    obtain ⟨hne, hrest⟩ := not_or.1 (List.mem_cons.not.1 hname)
    exact put_other_some field rest slot hne (ih slots hrest)

end

/-- A member fills its slot in the same way if its value is written differently. -/
theorem Tolerates.put {fields : Fields ts} {shapes : List Shape} (h : fields.Tolerates shapes)
    {depth : Nat} {slots next : Slots ts} {name : String} {script script' : Script}
    (hchange : Change ((Shape.ofFields fields shapes).member (some name)) script script')
    (hput : fields.putScript depth slots name script = some next) :
    fields.putScript depth slots name script' = some next := by
  induction fields generalizing shapes with
  | nil => exact hput
  | cons field rest ih =>
    obtain ⟨slot, slots⟩ := slots
    cases shapes with
    | nil => exact h.elim
    | cons shape shapes =>
      -- What the shape tells of a name is what it tells of the field with that name.
      have hmember : (Shape.ofFields (.cons field rest) (shape :: shapes)).member (some name) =
          if name = field.name then shape else (Shape.ofFields rest shapes).member (some name) := by
        show ((List.lookup name ((field.name, shape) :: rest.names.zip shapes)).getD .skipped) = _
        rw [List.lookup_cons]
        by_cases hname : name = field.name
        · simp [hname]
        · rw [if_neg hname, beq_eq_false_iff_ne.2 hname]
          rfl
      -- Either the member is for this field, or for one of the others.
      rw [hmember] at hchange
      by_cases hname : name = field.name
      · subst hname
        rw [if_pos rfl] at hchange
        obtain ⟨rfl, a, ha, rfl⟩ := of_put_same hput
        exact put_same_some field rest slots (h.1.keeps hchange ha)
      · rw [if_neg hname] at hchange
        obtain ⟨others, hothers, rfl⟩ := of_put_other hname hput
        exact put_other_some field rest slot hname (ih h.2 hchange hothers)

/-- An element of a list gives the same to its field if it is written differently. -/
theorem Tolerates.fromItems {fields : Fields ts} {shapes : List Shape} (h : fields.Tolerates shapes)
    {depth : Nat} {before after : List (Spaced Script)} {x y : Spaced Script} {row : Row ts}
    (hchange : Change ((Shape.ofFields fields shapes).item before.length) x.it y.it)
    (hitems : fields.fromItems depth (before ++ x :: after) = some row) :
    fields.fromItems depth (before ++ y :: after) = some row := by
  -- Over the fields and the elements at once: each field takes one element.
  induction fields generalizing shapes before with
  | nil => cases before <;> cases hitems
  | cons field rest ih =>
    cases shapes with
    | nil => exact h.elim
    | cons shape shapes =>
      cases before with
      -- The changed element is for this field, or further behind for one of the others.
      | nil =>
        obtain ⟨a, ha, hrest⟩ := Option.bind_eq_some_iff.1 hitems
        have hy : field.form.take depth y.it = some a := h.1.keeps hchange ha
        exact Option.bind_eq_some_iff.2 ⟨a, hy, hrest⟩
      | cons first before =>
        obtain ⟨a, ha, hrest⟩ := Option.bind_eq_some_iff.1 hitems
        obtain ⟨row, hrow, rfl⟩ := Option.map_eq_some_iff.1 hrest
        have hlater := ih h.2 hchange hrow
        exact Option.bind_eq_some_iff.2 ⟨a, ha, Option.map_eq_some_iff.2 ⟨row, hlater, rfl⟩⟩

/-- The names that matter in a record are those of its fields. -/
theorem Tolerates.reserved {fields : Fields ts} {shapes : List Shape} (h : fields.Tolerates shapes)
    (members : List Script.Member) :
    (Shape.ofFields fields shapes).reserved members = fields.names := by
  show (fields.names.zip shapes).map Prod.fst = fields.names
  induction fields generalizing shapes with
  | nil => rfl
  | cons field rest ih =>
    cases shapes with
    | nil => exact h.elim
    -- The first name is that of the first field.
    | cons shape shapes => exact congrArg (field.name :: ·) (ih h.2)

variable {fields : Fields ts} {depth : Nat} {slots next last : Slots ts} {m k : Script.Member}

/-- Two members of an object change places. -/
theorem putMember_swap (h : Json.putMember (fields.putScript depth) slots m = some next)
    (h' : Json.putMember (fields.putScript depth) next k = some last) :
    ∃ next', Json.putMember (fields.putScript depth) slots k = some next' ∧
      Json.putMember (fields.putScript depth) next' m = some last := by
  obtain ⟨name, hname, hput⟩ := Option.bind_eq_some_iff.1 h
  obtain ⟨name', hname', hput'⟩ := Option.bind_eq_some_iff.1 h'
  obtain ⟨next', hnext, hlast⟩ := put_swap hput hput'
  exact ⟨next', Option.bind_eq_some_iff.2 ⟨name', hname', hnext⟩,
    Option.bind_eq_some_iff.2 ⟨name, hname, hlast⟩⟩

/-- The members of an object may come in any order. -/
theorem putMembers_perm {members members' : List Script.Member} (hperm : members.Perm members')
    (h : members.foldlM (Json.putMember (fields.putScript depth)) slots = some last) :
    members'.foldlM (Json.putMember (fields.putScript depth)) slots = some last :=
  Partial.foldlM_perm_eq (f := Json.putMember (fields.putScript depth))
    (fun h h' => putMember_swap h h') hperm h

/-- A member with a name that no field has may be added anywhere. -/
theorem putMembers_add {members members' : List Script.Member}
    (hperm : (m :: members).Perm members') {name : String}
    (hname : Script.Member.name? m = some name) (hunknown : name ∉ fields.names)
    (h : members.foldlM (Json.putMember (fields.putScript depth)) slots = some last) :
    members'.foldlM (Json.putMember (fields.putScript depth)) slots = some last := by
  -- In front the new member changes nothing, and from there it may be moved.
  have hfirst : Json.putMember (fields.putScript depth) slots m = some slots :=
    Option.bind_eq_some_iff.2 ⟨name, hname, put_unknown fields slots hunknown _⟩
  refine putMembers_perm hperm ?_
  rw [List.foldlM_cons, hfirst]
  exact h

/-- The value of a member may be written differently. -/
theorem Tolerates.putMembers_replace {shapes : List Shape} (h : fields.Tolerates shapes)
    (hname : k.1.it = m.1.it)
    (hvalue : Change ((Shape.ofFields fields shapes).member (Script.Member.name? m)) m.2.it k.2.it)
    {before after : List Script.Member}
    (hlast : (before ++ m :: after).foldlM (Json.putMember (fields.putScript depth)) slots =
      some last) :
    (before ++ k :: after).foldlM (Json.putMember (fields.putScript depth)) slots = some last := by
  refine Partial.foldlM_replace (f := Json.putMember (fields.putScript depth)) ?_ hlast
  intro slots next hput
  obtain ⟨name, hm, hput⟩ := Option.bind_eq_some_iff.1 hput
  have hk : Script.Member.name? k = some name := (congrArg Letter.name? hname).trans hm
  rw [hm] at hvalue
  exact Option.bind_eq_some_iff.2 ⟨name, hk, h.put hvalue hput⟩

end Fields

namespace Form

/-- Records are tolerated if their fields are. -/
theorem tolerates_record (name : String) {ts : List Type} {fields : Fields ts}
    {shapes : List Shape} (h : fields.Tolerates shapes) :
    (record name fields).Tolerates (.ofFields fields shapes) where
  covered := covered_record name (h.all Tolerates.covered)
  settled := settled_of_gives (gives_record name (h.all Tolerates.settled))
  keeps {depth script script' row} hchange htake := by
    rw [take_eq (gives_record name (h.all Tolerates.settled) depth _)] at htake ⊢
    cases depth with
    | zero =>
      cases script with
      | token t => cases htake
      | list | object => cases htake
    | succ depth =>
      cases hchange with
      | refl => exact htake
      | item hitem => exact h.fromItems hitem htake
      | reorder hperm =>
        obtain ⟨slots, hslots, hfill⟩ := Option.bind_eq_some_iff.1 htake
        exact Option.bind_eq_some_iff.2 ⟨slots, Fields.putMembers_perm hperm hslots, hfill⟩
      | add hperm _ hname =>
        -- A member whose name is not reserved is for no field.
        obtain ⟨name, hreserved, hname⟩ := hname (fun h => by cases h)
        rw [h.reserved] at hreserved
        obtain ⟨slots, hslots, hfill⟩ := Option.bind_eq_some_iff.1 htake
        exact Option.bind_eq_some_iff.2
          ⟨slots, Fields.putMembers_add hperm hname hreserved hslots, hfill⟩
      | member hname hvalue =>
        obtain ⟨slots, hslots, hfill⟩ := Option.bind_eq_some_iff.1 htake
        exact Option.bind_eq_some_iff.2 ⟨slots, h.putMembers_replace hname hvalue hslots, hfill⟩

end Form

end Gamebook
