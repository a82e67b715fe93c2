import Gamebook.Proofs.Json.Written

/-!
# What forms read is written so

All that a form reads is the text of a script, if that holds of the forms that it is built on.

## Key results

- `Form.Covered`: whether all that a form reads is the text of a script
- `covered_textOf`, `covered_bool`, `covered_whole`, `covered_choice`: the basic forms
- `Covered.map`, `Covered.check`, `Covered.optional`, `Covered.list`: forms that are built on others
- `covered_record`, `covered_tagged`: records and tagged unions
-/

namespace Gamebook

open Json (Reader Covers CoversStep Gap Letter Written WrittenItems WrittenMembers comma)
open Reading

namespace Form

variable {α β : Type} {form : Form α} {text rest : List Char}

/-- Whether all that a form reads is the text of a script. -/
def Covered (form : Form α) : Prop := ∀ depth, Covers (form.read depth)

/-! ## Basic forms -/

/-- What is read as a string is written as one. -/
theorem covered_textOf (expected : String) : (textOf expected).Covered := by
  intro depth
  refine Json.covers_next fun {c text s rest} hc h => ?_
  split at h
  next =>
    obtain ⟨after, rfl⟩ := List.head?_eq_some_iff.1 hc
    exact Json.written_string (Json.of_advance_then_ok h)
  next => exact absurd h (Json.unexpected_ne_ok _)

/-- What is read as a truth value is written as one. -/
theorem covered_bool : bool.Covered := by
  intro depth
  refine Json.covers_next fun {c text b rest} hc h => ?_
  split at h
  next =>
    obtain ⟨after, rfl⟩ := List.head?_eq_some_iff.1 hc
    obtain ⟨_, hword, -⟩ := of_bind_pure_ok (Json.of_advance_then_ok h)
    exact Json.written_word (.bool true) rfl hword
  next =>
    obtain ⟨after, rfl⟩ := List.head?_eq_some_iff.1 hc
    obtain ⟨_, hword, -⟩ := of_bind_pure_ok (Json.of_advance_then_ok h)
    exact Json.written_word (.bool false) rfl hword
  next => exact absurd h (Json.unexpected_ne_ok _)

/-- What is read as a number is written as one. -/
theorem covers_readNumber (expected : String) : Covers (readNumber expected) := by
  refine Json.covers_next fun {c text n rest} hc h => ?_
  split at h
  next =>
    split at h
    next => exact Json.written_number h
    next => exact absurd h (Json.unexpected_ne_ok _)
  next => exact absurd h (Json.endedIn_ne_ok _)

/-- What is read as nothing is written as the word for it. -/
theorem covers_readNull : Covers readNull := by
  refine Json.covers_next fun {c text _ rest} hc h => ?_
  split at h
  next =>
    obtain ⟨after, rfl⟩ := List.head?_eq_some_iff.1 hc
    exact Json.written_word .null rfl (Json.of_advance_then_ok h)
  next => exact absurd h (Json.unexpected_ne_ok _)

/-- What is read as a value of any kind is written as one. -/
theorem covered_any : any.Covered := Json.covers_value

/-- What is mapped is written as before. -/
theorem Covered.map (h : form.Covered) (forth : α → β) (back : β → α) :
    (form.map forth back).Covered := by
  intro depth text b rest hread
  obtain ⟨a, ha, -⟩ := of_map_ok hread
  exact h depth ha

/-- What is checked is written as before. -/
theorem Covered.check (h : form.Covered) (forth : α → Except Json.Problem β) (back : β → α) :
    (form.check forth back).Covered := fun depth => (h depth).bind rest_of_lift_ok

/-- A whole number is written as a number. -/
theorem covered_whole (expected : String) (least greatest : Int) :
    (whole expected least greatest).Covered :=
  fun _ => (covers_readNumber expected).bind rest_of_lift_ok

/-- An optional value is written as the word for nothing, or as a value. -/
theorem Covered.optional (h : form.Covered) : form.optional.Covered := by
  intro depth
  refine Json.covers_next fun {c text a rest} hc hread => ?_
  split at hread
  next =>
    obtain ⟨after, rfl⟩ := List.head?_eq_some_iff.1 hc
    obtain ⟨_, hword, -⟩ := of_bind_pure_ok (Json.of_advance_then_ok hread)
    exact Json.written_word .null rfl hword
  next =>
    obtain ⟨a, hsome, -⟩ := of_map_ok hread
    exact h depth hsome

/-- A list is written as one, if its elements are. -/
theorem Covered.list (h : form.Covered) : form.list.Covered := by
  intro depth
  refine Json.covers_next fun {c text items rest} hc hread => ?_
  split at hread
  next =>
    obtain ⟨after, rfl⟩ := List.head?_eq_some_iff.1 hc
    split at hread
    next => exact absurd hread (Json.breached_ne_ok _)
    next below =>
      exact Json.written_list
        (Json.writtenItems_listFrom (h below) (Json.of_advance_then_ok hread))
  next => exact absurd hread (Json.unexpected_ne_ok _)

/-! ## Names -/

/-- A name that is read where a tag is wanted is spelled with letters. -/
theorem of_readTag_ok {tag : String} (h : readTag text = .ok (tag, rest)) :
    ∃ gap letters, Gap gap ∧
      text = gap ++ '"' :: ((letters : List Letter).flatMap Letter.text ++ '"' :: rest) := by
  obtain ⟨c, seen, hnext, hread⟩ := of_bind_ok h
  split at hread
  next =>
    obtain ⟨gap, after, hgap, rfl, htext⟩ := Json.of_next?_some hnext
    obtain ⟨letters, rfl⟩ := Json.of_string_ok (Json.of_advance_then_ok hread)
    exact ⟨gap, letters, hgap, htext⟩
  next => exact absurd hread (Json.unexpected_ne_ok _)

/-- A tag is written as a string. -/
theorem covers_readTag : Covers readTag := covered_textOf _ 0

/-- A choice is written as a name, or as an object that has the name alone. -/
theorem covered_choice (cases : List (String × α)) (nameOf : α → String) :
    (choice cases nameOf).Covered := by
  intro depth
  refine Json.covers_next fun {c text a rest} hc h => ?_
  split at h
  next => exact absurd h (Json.endedIn_ne_ok _)
  next =>
    obtain ⟨after, rfl⟩ := List.head?_eq_some_iff.1 hc
    obtain ⟨name, _, hname, hread⟩ := of_bind_ok (Json.of_advance_then_ok h)
    obtain rfl := rest_of_lift_ok hread
    exact Json.written_string hname
  next =>
    obtain ⟨after, rfl⟩ := List.head?_eq_some_iff.1 hc
    split at h
    next => exact absurd h (Json.breached_ne_ok _)
    next =>
      -- The object has one member, with the word for nothing as its value.
      obtain ⟨name, _, htag, hread⟩ := of_bind_ok (Json.of_advance_then_ok h)
      obtain ⟨b, _, hnamed, hread⟩ := of_bind_ok hread
      obtain ⟨_, _, hcolon, hread⟩ := of_bind_ok hread
      obtain ⟨_, _, hnull, hread⟩ := of_bind_ok hread
      obtain ⟨d, last, hnext, hlast⟩ := of_bind_ok hread
      obtain ⟨gap, letters, hgap, rfl⟩ := of_readTag_ok htag
      obtain rfl := rest_of_lift_ok hnamed
      obtain ⟨colon, hcolonGap, rfl⟩ := Json.of_colon_ok hcolon
      split at hlast
      next => exact absurd hlast (Json.endedIn_ne_ok _)
      next =>
        obtain ⟨lastGap, after, hlastGap, rfl, rfl⟩ := Json.of_next?_some hnext
        have hpure : (pure b : Reader α) after = .ok (a, rest) := Json.of_advance_then_ok hlast
        obtain rfl := rest_of_pure_ok hpure
        have hend : WrittenMembers false after (lastGap ++ '}' :: after) :=
          (Json.writtenMembers_nil false after).spaced hlastGap
        exact Json.written_object (hend.cons (covers_readNull hnull) hcolonGap hgap true)
      next => exact absurd hlast (Json.breached_ne_ok _)
  next => exact absurd h (Json.breached_ne_ok _)

end Form

/-! ## Records -/

namespace Fields

variable {ts : List Type} {text rest last : List Char}

/-- A member of a record is written, whether or not it has the name of a field. -/
theorem coversStep_readMember {fields : Fields ts} (h : fields.All Form.Covered) (depth : Nat) :
    CoversStep (fields.readMember depth) := by
  intro slots name text next rest hread
  -- Over the fields, of which the first with the name reads the value.
  induction fields generalizing text rest with
  | nil => exact Json.written_colon (Json.covers_skipValue.bind rest_of_pure_ok) hread
  | cons field others ih =>
    obtain ⟨slot, slots⟩ := slots
    by_cases hname : name = field.name
    · subst hname
      cases slot with
      | some a =>
        rw [readMember_again depth field others a slots] at hread
        exact absurd hread (Json.mismatched_ne_ok _)
      | none =>
        rw [readMember_same depth field others] at hread
        exact Json.written_colon ((h.1 depth).bind rest_of_pure_ok) hread
    -- The member is for another field, or for none and skipped.
    · rw [readMember_other depth field others slot slots hname] at hread
      obtain ⟨_, hother, -⟩ := of_bind_pure_ok hread
      exact ih h.2 hother

/-- Fields that are read as a list are written, up to the end of the list. -/
theorem writtenItems_readElements {fields : Fields ts} (h : fields.All Form.Covered) {depth : Nat}
    {expected : String} {position : Nat} {row : Row ts}
    (hread : fields.readElements depth expected position text = .ok (row, last))
    (hclose : Json.closeList last = .ok ((), rest)) :
    WrittenItems (position == 0) rest text := by
  -- Over the fields, at whatever position the list is.
  induction fields generalizing text position with
  | nil =>
    obtain rfl := rest_of_pure_ok hread
    obtain ⟨gap, hgap, rfl⟩ := Json.of_closeList_ok hclose
    exact (Json.writtenItems_nil _ rest).spaced hgap
  | cons field others ih =>
    unfold Fields.readElements at hread
    obtain ⟨a, between, helement, hread⟩ := of_bind_ok hread
    obtain ⟨_, hothers, -⟩ := of_bind_pure_ok hread
    have hrest : WrittenItems false rest between := ih h.2 hothers
    unfold Fields.readElements.readElement at helement
    obtain ⟨more, seen, hmore, helement⟩ := of_bind_ok helement
    cases more with
    | true => exact hrest.of_more (h.1 depth helement) hmore
    | false =>
      -- Where the list has ended the other fields have their defaults as well.
      have hdefault : between = seen := by
        cases hdefault : field.default with
        | none =>
          rw [hdefault] at helement
          exact absurd helement (Json.mismatched_ne_ok _)
        | some default =>
          rw [hdefault] at helement
          exact (rest_of_pure_ok helement).symm
      obtain ⟨gap, after, hgap, rfl, rfl⟩ := Json.of_hasElement_end hmore
      subst hdefault
      obtain rfl := hrest.of_ended
      exact (Json.writtenItems_nil _ _).spaced hgap

end Fields

namespace Form

/-- Records are covered if their fields are. -/
theorem covered_record (name : String) {ts : List Type} {fields : Fields ts}
    (h : fields.All Form.Covered) : (record name fields).Covered := by
  intro depth
  refine Json.covers_next fun {c text row rest} hc hread => ?_
  split at hread
  next =>
    -- As a list of its fields.
    obtain ⟨after, rfl⟩ := List.head?_eq_some_iff.1 hc
    split at hread
    next => exact absurd hread (Json.breached_ne_ok _)
    next below =>
      obtain ⟨row', _, helements, hread⟩ := of_bind_ok (Json.of_advance_then_ok hread)
      obtain ⟨_, hclose, -⟩ := of_bind_pure_ok hread
      exact Json.written_list (Fields.writtenItems_readElements h helements hclose)
  next =>
    -- As an object.
    obtain ⟨after, rfl⟩ := List.head?_eq_some_iff.1 hc
    split at hread
    next => exact absurd hread (Json.breached_ne_ok _)
    next below =>
      obtain ⟨slots, _, hmembers, hread⟩ := of_bind_ok (Json.of_advance_then_ok hread)
      obtain rfl := rest_of_lift_ok hread
      exact Json.written_object
        (Json.writtenMembers_objectFrom (Fields.coversStep_readMember h below) hmembers)
  next => exact absurd hread (Json.unexpected_ne_ok _)

/-! ## Tagged unions -/

variable {α : Type} {variants : List (Variant α)}

/-- A tag and any other member of a tagged union are written. -/
theorem coversStep_readTaggedMember (variants : List (Variant α)) (depth : Nat) :
    CoversStep (readTaggedMember variants depth) := by
  intro soFar name text next rest hread
  unfold readTaggedMember at hread
  split at hread
  next =>
    -- The tag is read as a name, if it is the first one.
    obtain ⟨tag?, kept⟩ := soFar
    cases tag? with
    | some tag => exact absurd hread (Json.mismatched_ne_ok _)
    | none =>
      refine Json.written_colon (covers_readTag.bind fun {tag text next rest} hread => ?_) hread
      obtain ⟨_, _, hknown, hread⟩ := of_bind_ok hread
      exact (rest_of_lift_ok hknown).trans (rest_of_pure_ok hread)
  -- Any other member is read as any value.
  next => exact Json.written_colon ((Json.covers_value depth).bind rest_of_pure_ok) hread

/-- All that a tagged union reads is written. -/
theorem covered_tagged (name : String) (variants : List (Variant α)) (toJson : α → Json) :
    (tagged name variants toJson).Covered := by
  intro depth
  refine Json.covers_next fun {c text a rest} hc hread => ?_
  split at hread
  next =>
    -- As a list: the tag comes first, and then whatever elements follow.
    obtain ⟨after, rfl⟩ := List.head?_eq_some_iff.1 hc
    split at hread
    next => exact absurd hread (Json.breached_ne_ok _)
    next below =>
      obtain ⟨more, _, hmore, hread⟩ := of_bind_ok (Json.of_advance_then_ok hread)
      cases more with
      | true =>
        obtain ⟨tag, _, htag, hread⟩ := of_bind_ok hread
        obtain ⟨_, _, hknown, hread⟩ := of_bind_ok hread
        obtain ⟨items, _, hitems, hvalue⟩ := of_bind_ok hread
        obtain rfl := rest_of_lift_ok hknown
        obtain rfl := rest_of_lift_ok hvalue
        have hrest := Json.writtenItems_listFrom (Json.covers_value below) hitems
        exact Json.written_list (hrest.of_more (covers_readTag htag) hmore)
      | false => exact absurd hread (Json.mismatched_ne_ok _)
  next =>
    -- As an object: the tag is one of the members.
    obtain ⟨after, rfl⟩ := List.head?_eq_some_iff.1 hc
    split at hread
    next => exact absurd hread (Json.breached_ne_ok _)
    next below =>
      obtain ⟨soFar, _, hmembers, hread⟩ := of_bind_ok (Json.of_advance_then_ok hread)
      obtain rfl := rest_of_lift_ok hread
      exact Json.written_object
        (Json.writtenMembers_objectFrom (coversStep_readTaggedMember variants below) hmembers)
  next => exact absurd hread (Json.unexpected_ne_ok _)

end Form

end Gamebook
