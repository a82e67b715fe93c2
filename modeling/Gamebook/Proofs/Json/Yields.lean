import Gamebook.Proofs.Json.RecordBack

/-!
# What forms read

Whatever a form reads is made of what the forms of its parts read. A list holds values that its
elements' form reads, and each field of a record holds what the form of the field reads, or the
default.

## Key results

- `Form.Yields`: whether a form reads a value from some text
- `Yields.of_map`, `Yields.of_list`: the parts of what is read were read
- `Fields.Yields`: whether each field holds what its form reads, or the default
- `Yields.of_record`: the fields of a record that is read do
- `yields_of_parse`: what a whole text holds is read
-/

namespace Gamebook

open Json (Reader)
open Reading

/-! ## Problems -/

namespace Json

variable {α : Type} {text rest : List Char} {a : α}

/-- A problem yields nothing. -/
theorem breached_ne_ok (b : Breach) : (breached b : Reader α) text ≠ .ok (a, rest) := nofun

/-- A mismatch gives no result. -/
theorem mismatched_ne_ok (m : Mismatch) : (mismatched m : Reader α) text ≠ .ok (a, rest) := nofun

/-- Neither does a text that has ended. -/
theorem endedIn_ne_ok (place : Place) : (endedIn place : Reader α) text ≠ .ok (a, rest) := nofun

/-- A thing of another type yields nothing, whether or not it can be read. -/
theorem unexpected_ne_ok (expected : String) :
    (unexpected expected : Reader α) text ≠ .ok (a, rest) := by
  refine bind_ne_ok fun c between => ?_
  -- A word, a string or a number is read in full before it is reported.
  split
  · exact bind_ne_ok fun _ _ => bind_ne_ok fun _ _ => mismatched_ne_ok _
  · exact bind_ne_ok fun _ _ => bind_ne_ok fun _ _ => mismatched_ne_ok _
  · exact bind_ne_ok fun _ _ => bind_ne_ok fun _ _ => mismatched_ne_ok _
  · exact bind_ne_ok fun _ _ => bind_ne_ok fun _ _ => mismatched_ne_ok _
  · exact mismatched_ne_ok _
  · exact mismatched_ne_ok _
  · split
    · exact bind_ne_ok fun _ _ => mismatched_ne_ok _
    · exact breached_ne_ok _
  · exact endedIn_ne_ok _

/-- What holds of the elements that a reader reads holds of all elements of a list. -/
theorem of_elements {item : Reader α} {P : α → Prop}
    (hitem : ∀ text a rest, item text = .ok (a, rest) → P a) {fuel : Nat} {first : Bool}
    {items : List α} (h : elements item fuel first text = .ok (items, rest)) :
    ∀ a ∈ items, P a := by
  -- Fuel that runs out is a problem, so a list that was read had enough of it.
  induction fuel generalizing first text rest items with
  | zero => exact absurd h (endedIn_ne_ok _)
  | succ fuel ih =>
    unfold elements at h
    obtain ⟨more, _, -, h⟩ := of_bind_ok h
    split at h
    · obtain ⟨a, _, hread, h⟩ := of_bind_ok h
      obtain ⟨others, _, hothers, h⟩ := of_bind_ok h
      obtain rfl := of_pure_ok h
      intro b hb
      rcases List.mem_cons.1 hb with rfl | hb
      · exact hitem _ _ _ hread
      · exact ih hothers b hb
    · obtain rfl := of_pure_ok h
      exact fun _ hb => absurd hb List.not_mem_nil

/-- What holds of the start of an object, and goes on holding with every member, holds of what is
read. -/
theorem of_objectFrom {σ : Type} {step : σ → String → Reader σ} {P : σ → Prop}
    (hstep : ∀ s name text next rest, step s name text = .ok (next, rest) → P s → P next) {s : σ}
    (hs : P s) {last : σ} (h : objectFrom step s text = .ok (last, rest)) : P last := by
  -- What holds so far is carried from member to member, whatever fuel is left.
  have hmembers : ∀ (fuel : Nat) (first : Bool) (s : σ) (text : List Char),
      members step fuel first s text = .ok (last, rest) → P s → P last := by
    intro fuel
    induction fuel with
    | zero => exact fun first s text h _ => absurd h (endedIn_ne_ok _)
    | succ fuel ih =>
      intro first s text h hs
      unfold members at h
      obtain ⟨more, _, -, h⟩ := of_bind_ok h
      split at h
      · obtain ⟨name, _, -, h⟩ := of_bind_ok h
        obtain ⟨next, _, hread, h⟩ := of_bind_ok h
        -- The member that is read keeps what holds, so the later ones start from that.
        exact ih false next _ h (hstep _ _ _ _ _ hread hs)
      · obtain ⟨_, _, -, h⟩ := of_bind_ok h
        obtain rfl := of_pure_ok h
        exact hs
  obtain ⟨_, _, -, h⟩ := of_bind_ok h
  exact hmembers _ _ _ _ h hs

end Json

/-! ## Forms -/

namespace Form

variable {α β : Type} {form : Form α}

/-- Whether a form reads a value from some text. -/
def Yields (form : Form α) (a : α) : Prop :=
  ∃ depth text rest, form.read depth text = .ok (a, rest)

/-- What a form in one-to-one correspondence reads corresponds to what the other form reads. -/
theorem Yields.of_map {forth : α → β} {back : β → α} {b : β} (h : (form.map forth back).Yields b) :
    ∃ a, form.Yields a ∧ forth a = b := by
  obtain ⟨depth, text, rest, hread⟩ := h
  obtain ⟨a, hread, hb⟩ := of_map_ok hread
  exact ⟨a, ⟨depth, text, rest, hread⟩, hb⟩

/-- The elements of a list that is read are read. -/
theorem Yields.of_list {items : List α} (h : form.list.Yields items) :
    ∀ a ∈ items, form.Yields a := by
  obtain ⟨depth, text, rest, hread⟩ := h
  obtain ⟨c, _, -, hread⟩ := of_bind_ok hread
  split at hread
  · cases depth with
    | zero => exact absurd hread (Json.breached_ne_ok _)
    | succ depth =>
      obtain ⟨_, _, -, hread⟩ := of_bind_ok hread
      obtain ⟨_, _, -, hread⟩ := of_bind_ok hread
      obtain ⟨items', _, hitems, hread⟩ := of_bind_ok hread
      obtain ⟨_, _, -, hread⟩ := of_bind_ok hread
      obtain rfl := of_pure_ok hread
      -- Every element of the list was read by the form of the elements.
      exact Json.of_elements (fun text a rest hread => ⟨depth, text, rest, hread⟩) hitems
  · exact absurd hread (Json.unexpected_ne_ok _)

/-- A field that holds a list that was read, or else an empty one by default, holds only what was
read. -/
theorem Yields.of_listField {items : List α} {default : Option (List α)}
    (hdefault : default.getD [] = []) (h : form.list.Yields items ∨ default = some items) :
    ∀ a ∈ items, form.Yields a := by
  rcases h with hread | rfl
  · exact hread.of_list
  · obtain rfl : items = [] := hdefault
    exact fun _ ha => absurd ha List.not_mem_nil

/-- What a whole text holds is read. -/
theorem yields_of_parse {s : String} {a : α} (h : form.parse s = .ok a) : form.Yields a := by
  unfold parse Json.readAll at h
  cases hread : form.read Json.maxDepth s.toList with
  | error problem =>
    rw [hread] at h
    cases h
  | ok result =>
    rw [hread] at h
    simp only at h
    -- What is left of the text is white space, or it is a problem.
    split at h
    · obtain rfl := Except.ok.inj h
      exact ⟨_, _, _, hread⟩
    · cases h

end Form

/-! ## Records -/

namespace Fields

variable {α : Type} {ts : List Type}

/-- Whether the forms of all fields have a property. -/
def All (P : {α : Type} → Form α → Prop) : {ts : List Type} → Fields ts → Prop
  | _, .nil => True
  | _, .cons field rest => P field.form ∧ rest.All P

/-- Whether each field of a record holds what its form reads, or its default. -/
def Yields : {ts : List Type} → Fields ts → Row ts → Prop
  | _, .nil, _ => True
  | _, .cons field rest, (a, row) =>
    (field.form.Yields a ∨ field.default = some a) ∧ rest.Yields row

/-- Whether each field that was read so far holds what its form reads. -/
def YieldsSlots : {ts : List Type} → Fields ts → Slots ts → Prop
  | _, .nil, _ => True
  | _, .cons field rest, (a?, slots) => (∀ a ∈ a?, field.form.Yields a) ∧ rest.YieldsSlots slots

/-- Empty slots hold nothing that would have to be read. -/
theorem yieldsSlots_empty (fields : Fields ts) : fields.YieldsSlots (Slots.empty ts) := by
  induction fields with
  | nil => trivial
  | cons field rest ih => exact ⟨nofun, ih⟩

/-- A field is read only once. -/
theorem readMember_again (depth : Nat) (field : Field α) (rest : Fields ts) (a : α)
    (slots : Slots ts) :
    (Fields.cons field rest).readMember depth (some a, slots) field.name =
      (Json.mismatched (.repeatedField field.name) : Reader (Option α × Slots ts)) :=
  if_pos rfl

/-- A member fills the slot of its field with what is read. -/
theorem YieldsSlots.readMember {fields : Fields ts} {depth : Nat} {name : String}
    {text rest : List Char} {slots next : Slots ts} (hslots : fields.YieldsSlots slots)
    (h : fields.readMember depth slots name text = .ok (next, rest)) : fields.YieldsSlots next := by
  -- Over the fields: the slots before the one that is filled stay as they are.
  induction fields generalizing text rest with
  | nil => trivial
  | cons field others ih =>
    obtain ⟨slot, slots⟩ := slots
    obtain ⟨hslot, hslots⟩ := hslots
    by_cases hname : name = field.name
    · subst hname
      cases slot with
      | some a =>
        -- A second member of the same name is a problem, so the slot was not filled before.
        rw [readMember_again depth field others a slots] at h
        exact absurd h (Json.mismatched_ne_ok _)
      | none =>
        rw [readMember_same depth field others] at h
        obtain ⟨_, _, -, h⟩ := of_bind_ok h
        obtain ⟨a, _, hread, h⟩ := of_bind_ok h
        obtain rfl := of_pure_ok h
        refine ⟨fun b hb => ?_, hslots⟩
        obtain rfl := Option.some.inj hb
        exact ⟨depth, _, _, hread⟩
    · rw [readMember_other depth field others slot slots hname] at h
      obtain ⟨next, _, hread, h⟩ := of_bind_ok h
      obtain rfl := of_pure_ok h
      -- The member is for another field, whose slot is among the others.
      exact ⟨hslot, ih hslots hread⟩

/-- A field that is absent and has no default is missed. -/
theorem fill_missing (field : Field α) (rest : Fields ts) (slots : Slots ts)
    (hdefault : field.default = none) :
    (Fields.cons field rest).fill (none, slots) =
      .error (.mismatch (.missingField field.name)) := by
  obtain ⟨name, form, default, leftOut⟩ := field
  obtain rfl : default = none := hdefault
  rfl

/-- A record is filled field by field. -/
private theorem of_fill_cons {rest : Fields ts} {slots : Slots ts} {a : α} {row : Row (α :: ts)}
    (h : (rest.fill slots >>= fun others =>
      (pure (a, others) : Except Json.Problem (α × Row ts))) = .ok row) :
    ∃ others, rest.fill slots = .ok others ∧ row = (a, others) := by
  obtain ⟨others, hrest, hrow⟩ := of_then_ok h
  exact ⟨others, hrest, (Except.ok.inj hrow).symm⟩

/-- The fields that were not read are filled with their defaults. -/
theorem YieldsSlots.fill {fields : Fields ts} {slots : Slots ts} {row : Row ts}
    (hslots : fields.YieldsSlots slots) (h : fields.fill slots = .ok row) : fields.Yields row := by
  induction fields with
  | nil => trivial
  | cons field rest ih =>
    obtain ⟨slot, slots⟩ := slots
    obtain ⟨hslot, hslots⟩ := hslots
    -- A slot that is empty is filled with the default, or not at all.
    cases slot with
    | some a =>
      rw [fill_present field rest a] at h
      obtain ⟨others, hrest, rfl⟩ := of_fill_cons h
      exact ⟨.inl (hslot a rfl), ih hslots hrest⟩
    | none =>
      cases hdefault : field.default with
      | some a =>
        rw [fill_absent field rest slots hdefault] at h
        obtain ⟨others, hrest, rfl⟩ := of_fill_cons h
        exact ⟨.inr hdefault, ih hslots hrest⟩
      | none =>
        rw [fill_missing field rest slots hdefault] at h
        cases h

/-- Elements that are read in a row fill the fields, and defaults fill the last of them. -/
theorem yields_of_readElements {fields : Fields ts} {depth position : Nat} {expected : String}
    {text rest : List Char} {row : Row ts}
    (h : fields.readElements depth expected position text = .ok (row, rest)) :
    fields.Yields row := by
  -- Over the fields, each of which reads an element or has its default.
  induction fields generalizing text rest position with
  | nil => trivial
  | cons field others ih =>
    unfold Fields.readElements at h
    obtain ⟨a, _, helement, h⟩ := of_bind_ok h
    obtain ⟨row', _, hothers, h⟩ := of_bind_ok h
    obtain rfl := of_pure_ok h
    refine ⟨?_, ih hothers⟩
    -- Where the list has ended the field has its default.
    unfold Fields.readElements.readElement at helement
    obtain ⟨more, _, -, helement⟩ := of_bind_ok helement
    split at helement
    · exact .inl ⟨depth, _, _, helement⟩
    · cases hdefault : field.default with
      | some default =>
        rw [hdefault] at helement
        obtain rfl := of_pure_ok helement
        exact .inr rfl
      | none =>
        rw [hdefault] at helement
        exact absurd helement (Json.mismatched_ne_ok _)

end Fields

/-- Each field of a record that is read holds what its form reads, or its default. -/
theorem Form.Yields.of_record {ts : List Type} {name : String} {fields : Fields ts} {row : Row ts}
    (h : (Form.record name fields).Yields row) : fields.Yields row := by
  obtain ⟨depth, text, rest, hread⟩ := h
  obtain ⟨c, _, -, hread⟩ := of_bind_ok hread
  split at hread
  · -- A list of the fields.
    split at hread
    · exact absurd hread (Json.breached_ne_ok _)
    · obtain ⟨_, _, -, hread⟩ := of_bind_ok hread
      obtain ⟨row', _, helements, hread⟩ := of_bind_ok hread
      obtain ⟨_, _, -, hread⟩ := of_bind_ok hread
      obtain rfl := of_pure_ok hread
      exact Fields.yields_of_readElements helements
  · -- An object with the fields as members.
    split at hread
    · exact absurd hread (Json.breached_ne_ok _)
    · obtain ⟨_, _, -, hread⟩ := of_bind_ok hread
      obtain ⟨slots, _, hmembers, hread⟩ := of_bind_ok hread
      have hslots : fields.YieldsSlots slots :=
        Json.of_objectFrom (fun s name text next rest h hs => hs.readMember h)
          (Fields.yieldsSlots_empty fields) hmembers
      exact hslots.fill (of_lift_ok hread)
  · exact absurd hread (Json.unexpected_ne_ok _)

end Gamebook
