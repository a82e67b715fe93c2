import Gamebook.Proofs.Json.Tolerance

/-!
# Tolerant tagged unions

A tagged union keeps the members of an object until the tag is known, and then takes them as those
of a record. So they may come in any order, the tag included. Members that the case does not know
are kept as well, and make no difference in the end. All fields of a case must be taken from values
without parts: then what has parts belongs to an unknown member.

## Key results

- `Form.TakesFlat`: whether a form takes only values without parts
- `Fields.toOption_ofMembers`: the members of a record are taken like those of a script
- `TaggedSoFar.finish_unknown`: an unknown member that was kept makes no difference
- `tolerates_tagged`: tagged unions are tolerant
-/

namespace Gamebook

open Json (Gives outcome Script Spaced Letter Token Shape Change)
open Reading

/-! ## Values without parts -/

namespace Form

variable {α β : Type} {form : Form α}

/-- Whether a form takes only values without parts. -/
def TakesFlat (form : Form α) : Prop := ∀ j a, form.ofJson j = .ok a → j.hasParts = false

/-- A text is taken of no list and no object. -/
theorem takesFlat_text : text.TakesFlat := fun j a h => by
  cases j with
  | list | object => cases h
  | _ => rfl

/-- So is a whole number of none. -/
theorem takesFlat_whole (expected : String) (least greatest : Int) :
    (whole expected least greatest).TakesFlat := fun j a h => by
  cases j with
  | list | object => cases h
  | _ => rfl

/-- What is mapped is taken of the same values as before. -/
theorem TakesFlat.map (h : form.TakesFlat) (forth : α → β) (back : β → α) :
    (form.map forth back).TakesFlat := fun j b hj => by
  obtain ⟨a, ha, -⟩ := of_then_ok hj
  exact h j a ha

/-- What is optional is taken of nothing as well, which is no list and no object. -/
theorem TakesFlat.optional (h : form.TakesFlat) : form.optional.TakesFlat := fun j a hj => by
  cases j with
  | list | object =>
    obtain ⟨a, ha, -⟩ := of_then_ok hj
    exact h _ a ha
  | _ => rfl

end Form

/-! ## Taking members -/

namespace Fields

variable {α : Type} {ts : List Type}

/-- Puts a member that was read before into the slot of its field. -/
def putJson (fields : Fields ts) (slots : Slots ts) (member : String × Json) : Option (Slots ts) :=
  fields.put (fun form j => (form.ofJson j).toOption) slots member.1 member.2

/-- A member is taken into the slot of the field that it is named for. -/
theorem toOption_takeMember (fields : Fields ts) (slots : Slots ts) (member : String × Json) :
    (fields.takeMember slots member.1 member.2).toOption = fields.putJson slots member := by
  obtain ⟨name, j⟩ := member
  unfold putJson
  induction fields with
  | nil => rfl
  | cons field rest ih =>
    obtain ⟨slot, slots⟩ := slots
    -- The field that has the name decides, and the others leave their slots as they are.
    by_cases hname : name = field.name
    · subst hname
      cases slot with
      | some a =>
        rw [put_again field rest slots j a]
        exact congrArg Except.toOption (if_pos rfl)
      | none =>
        rw [put_same field rest slots j]
        refine (congrArg Except.toOption (if_pos rfl)).trans ?_
        cases field.form.ofJson j <;> rfl
    · rw [put_other field rest slots j slot hname]
      refine (congrArg Except.toOption (if_neg hname)).trans ?_
      refine (toOption_then _ _).trans ?_
      rw [ih slots]
      cases rest.put (fun form j => (form.ofJson j).toOption) slots name j <;> rfl

/-- The members of a record are taken one after the other, and the defaults fill the rest. -/
theorem toOption_ofMembers (fields : Fields ts) (members : List (String × Json)) :
    (fields.ofMembers members).toOption =
      (members.foldlM fields.putJson (Slots.empty ts)).bind fun slots =>
        (fields.fill slots).toOption := by
  unfold ofMembers
  rw [toOption_then, Partial.toOption_foldlM]
  have hstep : (fun slots (member : String × Json) =>
      (fields.takeMember slots member.1 member.2).toOption) = fields.putJson :=
    funext fun slots => funext fun member => toOption_takeMember fields slots member
  rw [hstep]

/-- Members that were read before may be taken in any order. -/
theorem ofMembers_perm {fields : Fields ts} {members members' : List (String × Json)}
    {row : Row ts} (hperm : members.Perm members')
    (h : (fields.ofMembers members).toOption = some row) :
    (fields.ofMembers members').toOption = some row := by
  rw [toOption_ofMembers] at h ⊢
  obtain ⟨slots, hslots, hfill⟩ := Option.bind_eq_some_iff.1 h
  have hslots' := Partial.foldlM_perm_eq (f := fields.putJson) (fun h h' => put_swap h h') hperm
    hslots
  exact Option.bind_eq_some_iff.2 ⟨slots, hslots', hfill⟩

/-- A member that no field has makes no difference. -/
theorem ofMembers_unknown (fields : Fields ts) (members : List (String × Json)) {name : String}
    (hname : name ∉ fields.names) (j : Json) :
    (fields.ofMembers (members ++ [(name, j)])).toOption = (fields.ofMembers members).toOption := by
  rw [toOption_ofMembers, toOption_ofMembers, List.foldlM_append]
  cases members.foldlM fields.putJson (Slots.empty ts) with
  | none => rfl
  | some slots =>
    have hput : fields.putJson slots (name, j) = some slots := put_unknown fields slots hname j
    show ((fields.putJson slots (name, j)).bind some).bind _ = _
    rw [hput]
    rfl

/-- What is put into a slot has no parts. -/
theorem hasParts_of_putJson {fields : Fields ts} (h : fields.All Form.TakesFlat)
    {slots next : Slots ts}
    {name : String} {j : Json} (hname : name ∈ fields.names)
    (hput : fields.putJson slots (name, j) = some next) : j.hasParts = false := by
  induction fields with
  | nil => exact absurd hname List.not_mem_nil
  | cons field rest ih =>
    obtain ⟨slot, slots⟩ := slots
    -- Either the member is for this field, or for one of the others.
    by_cases hsame : name = field.name
    · subst hsame
      obtain ⟨-, a, ha, -⟩ := of_put_same hput
      exact h.1 j a (toOption_eq_some.1 ha)
    · obtain ⟨others, hothers, -⟩ := of_put_other hsame hput
      exact ih h.2 ((List.mem_cons.1 hname).resolve_left hsame) hothers

/-- What is taken from the elements of a list has no parts. -/
theorem hasParts_of_takeElements {fields : Fields ts} (h : fields.All Form.TakesFlat)
    {expected : String}
    {position : Nat} {items left : List Json} {row : Row ts}
    (htake : fields.takeElements expected position items = .ok (row, left)) :
    ∀ j ∈ items, j ∈ left ∨ j.hasParts = false := by
  induction fields generalizing position items with
  | nil =>
    obtain ⟨-, rfl⟩ := Prod.mk.inj (Except.ok.inj htake)
    exact fun j hj => .inl hj
  | cons field rest ih =>
    cases items with
    | nil => exact fun j hj => absurd hj List.not_mem_nil
    | cons first items =>
      -- The field takes the first element, and the rest of the fields what follows.
      obtain ⟨a, ha, htake⟩ := of_then_ok htake
      obtain ⟨taken, hpure, htake⟩ := of_then_ok htake
      obtain rfl := Except.ok.inj hpure
      obtain ⟨⟨row', left'⟩, hrest, hsame⟩ := of_then_ok htake
      obtain ⟨-, rfl⟩ := Prod.mk.inj (Except.ok.inj hsame)
      intro j hj
      -- The element is taken by the field, or it is left to the other fields.
      rcases List.mem_cons.1 hj with rfl | hj
      · exact .inr (h.1 j a ha)
      · exact ih h.2 hrest j hj

end Fields

/-! ## Tagged unions -/

namespace Form

variable {α : Type} {variants : List (Variant α)} {depth : Nat}

/-- A case that is found is one of the cases. -/
private theorem mem_of_find {tag : String} {v : Variant α} (h : Variant.find variants tag = .ok v) :
    v ∈ variants ∧ (variants.map fun v => (v.tag, v.fields.names)).lookup tag =
      some v.fields.names := by
  unfold Variant.find at h
  split at h
  next w hw =>
    obtain rfl := Except.ok.inj h
    -- The first variant with the tag is the one that is looked up.
    refine ⟨List.mem_of_find?_eq_some hw, ?_⟩
    induction variants with
    | nil => cases hw
    | cons first others ih =>
      rw [List.map_cons, List.lookup_cons]
      -- Search and look-up stop at the same variant.
      by_cases htag : first.tag = tag
      · rw [List.find?_cons_of_pos (by simpa using htag)] at hw
        obtain rfl := Option.some.inj hw
        simp [htag]
      · rw [List.find?_cons_of_neg (by simpa using htag)] at hw
        rw [beq_eq_false_iff_ne.2 (Ne.symm htag)]
        exact ih hw
  next => cases h

/-- What is read of a tagged union is told by its tag and its members. -/
theorem TaggedSoFar.toOption_finish (soFar : TaggedSoFar) :
    (soFar.finish variants).toOption = soFar.tag.bind fun tag =>
      (Variant.find variants tag).toOption.bind fun v =>
        (v.fields.ofMembers soFar.members.reverse).toOption.map v.make := by
  unfold TaggedSoFar.finish
  cases soFar.tag with
  | none => rfl
  | some tag =>
    simp only [Option.bind_some]
    cases Variant.find variants tag with
    | error e => rfl
    | ok v =>
      show (v.make <$> v.fields.ofMembers soFar.members.reverse).toOption =
        (v.fields.ofMembers soFar.members.reverse).toOption.map v.make
      cases v.fields.ofMembers soFar.members.reverse <;> rfl

/-- Whether the case that a tag names has no field with a name. -/
def Unknown (variants : List (Variant α)) (tag : Option String) (name : String) : Prop :=
  ∀ t ∈ tag, ∀ v, Variant.find variants t = .ok v → name ∉ v.fields.names

/-- A member that the case does not know makes no difference. -/
theorem TaggedSoFar.finish_unknown {soFar : TaggedSoFar} {name : String}
    (hname : Unknown variants soFar.tag name) (j : Json) :
    (TaggedSoFar.finish variants
      { soFar with members := (name, j) :: soFar.members }).toOption =
      (soFar.finish variants).toOption := by
  rw [toOption_finish, toOption_finish]
  refine Option.bind_congr fun tag htag => Option.bind_congr fun v hv => ?_
  have hunknown : name ∉ v.fields.names := hname tag htag v (toOption_eq_some.1 hv)
  rw [List.reverse_cons, Fields.ofMembers_unknown v.fields _ hunknown]

/-- A member with parts is one that the case does not know, if the value can be read. -/
theorem TaggedSoFar.unknown_of_hasParts (hflat : ∀ v ∈ variants, v.fields.All Form.TakesFlat)
    {soFar : TaggedSoFar} {name : String} {j : Json} {a : α}
    (h : (TaggedSoFar.finish variants
      { soFar with members := (name, j) :: soFar.members }).toOption = some a)
    (hj : j.hasParts = true) : Unknown variants soFar.tag name := by
  intro tag htag v hv hname
  rw [toOption_finish] at h
  obtain ⟨tag', htag', h⟩ := Option.bind_eq_some_iff.1 h
  obtain rfl : tag = tag' := Option.some.inj (htag.symm.trans htag')
  rw [hv] at h
  obtain ⟨row, hrow, -⟩ := Option.map_eq_some_iff.1 h
  -- The member that was kept last is taken last.
  rw [List.reverse_cons, Fields.toOption_ofMembers, List.foldlM_append] at hrow
  obtain ⟨slots, hslots, -⟩ := Option.bind_eq_some_iff.1 hrow
  obtain ⟨others, -, hlast⟩ := Option.bind_eq_some_iff.1 hslots
  obtain ⟨next, hput, -⟩ := Option.bind_eq_some_iff.1 hlast
  rw [Fields.hasParts_of_putJson (hflat v (mem_of_find hv).1) hname hput] at hj
  cases hj

/-- Whether the same was read of a tagged union, up to the order of its members. -/
def Alike (soFar other : TaggedSoFar) : Prop :=
  soFar.tag = other.tag ∧ soFar.members.Perm other.members

/-- What was kept in another order is finished in the same way. -/
theorem Alike.finish {soFar other : TaggedSoFar} (h : Alike soFar other) {a : α}
    (hfinish : (soFar.finish variants).toOption = some a) :
    (other.finish variants).toOption = some a := by
  obtain ⟨htag, hperm⟩ := h
  rw [TaggedSoFar.toOption_finish] at hfinish ⊢
  rw [← htag]
  obtain ⟨tag, hsome, hfinish⟩ := Option.bind_eq_some_iff.1 hfinish
  obtain ⟨v, hv, hfinish⟩ := Option.bind_eq_some_iff.1 hfinish
  obtain ⟨row, hrow, rfl⟩ := Option.map_eq_some_iff.1 hfinish
  have hrow' := Fields.ofMembers_perm
    (soFar.members.reverse_perm.trans (hperm.trans other.members.reverse_perm.symm)) hrow
  rw [hsome, Option.bind_some, hv, Option.bind_some, hrow']
  rfl

/-- Two things that were met change places. -/
private theorem keep_swap {soFar next last : TaggedSoFar} {first second : Met}
    (h : soFar.keep first = some next) (h' : next.keep second = some last) :
    ∃ next' last', soFar.keep second = some next' ∧ next'.keep first = some last' ∧
      Alike last last' := by
  obtain ⟨tag, members⟩ := soFar
  cases first with
  | member m =>
    obtain rfl := Option.some.inj h
    -- Two members are only kept in another order, and a tag and a member do not meet.
    cases second with
    | member k =>
      obtain rfl := Option.some.inj h'
      exact ⟨_, _, rfl, rfl, rfl, List.Perm.swap m k members⟩
    | tag t =>
      cases tag with
      | some _ => cases h'
      | none =>
        obtain rfl := Option.some.inj h'
        exact ⟨_, _, rfl, rfl, rfl, .refl _⟩
  | tag t =>
    cases tag with
    | some _ => cases h
    | none =>
      obtain rfl := Option.some.inj h
      cases second with
      | tag t' => cases h'
      | member k =>
        obtain rfl := Option.some.inj h'
        exact ⟨_, _, rfl, rfl, rfl, .refl _⟩

/-- The same thing may be kept wherever the tag is the same. -/
private theorem Alike.keep {soFar other next : TaggedSoFar} (h : Alike soFar other) {thing : Met}
    (hkeep : soFar.keep thing = some next) :
    ∃ next', other.keep thing = some next' ∧ Alike next next' := by
  obtain ⟨tag, members⟩ := soFar
  obtain ⟨tag', members'⟩ := other
  obtain ⟨rfl, hperm⟩ := h
  -- A member is kept by both, and a tag if neither has one yet.
  cases thing with
  | member m =>
    obtain rfl := Option.some.inj hkeep
    exact ⟨_, rfl, rfl, hperm.cons m⟩
  | tag t =>
    cases tag with
    | some _ => cases hkeep
    | none =>
      obtain rfl := Option.some.inj hkeep
      exact ⟨_, rfl, rfl, hperm⟩

/-- Keeps what is met in a member of an object. -/
private abbrev putMet (variants : List (Variant α)) (depth : Nat) :
    TaggedSoFar → Script.Member → Option TaggedSoFar :=
  Json.putMember (putTagged variants depth)

/-- What is met in a member of an object, whatever was met before. -/
private def metIn (variants : List (Variant α)) (depth : Nat) (m : Script.Member) : Option Met :=
  (Script.Member.name? m).bind fun name => met variants depth name m.2.it

/-- A member is put where something is met in it that may be kept. -/
private theorem putMet_eq_some {soFar next : TaggedSoFar} {m : Script.Member} :
    putMet variants depth soFar m = some next ↔
      ∃ thing, metIn variants depth m = some thing ∧ soFar.keep thing = some next := by
  have hbind : putMet variants depth soFar m = (metIn variants depth m).bind soFar.keep := by
    unfold putMet Json.putMember putTagged metIn
    rw [Option.bind_assoc]
  rw [hbind, Option.bind_eq_some_iff]

/-- The members of an object may come in any order. -/
private theorem putMets_perm {members members' : List Script.Member}
    (hperm : members.Perm members') {soFar last : TaggedSoFar}
    (h : members.foldlM (putMet variants depth) soFar = some last) :
    ∃ last', members'.foldlM (putMet variants depth) soFar = some last' ∧ Alike last last' := by
  refine Partial.foldlM_perm (fun _ => ⟨rfl, .refl _⟩)
    (fun h h' => ⟨h.1.trans h'.1, h.2.trans h'.2⟩) ?_ ?_ hperm h
  -- Sets of members that are alike stay so.
  · intro s t m s' hst hs
    obtain ⟨thing, hmet, hkeep⟩ := putMet_eq_some.1 hs
    obtain ⟨next, hnext, hlike⟩ := hst.keep hkeep
    exact ⟨next, putMet_eq_some.2 ⟨thing, hmet, hnext⟩, hlike⟩
  -- Two members may be kept in either order.
  · intro s m k next last hm hk
    obtain ⟨thing, hmet, hkeep⟩ := putMet_eq_some.1 hm
    obtain ⟨thing', hmet', hkeep'⟩ := putMet_eq_some.1 hk
    obtain ⟨next', last', hnext, hlast, hlike⟩ := keep_swap hkeep hkeep'
    exact ⟨next', last', putMet_eq_some.2 ⟨thing', hmet', hnext⟩,
      putMet_eq_some.2 ⟨thing, hmet, hlast⟩, hlike⟩

/-- What is met is the tag, as a string, or another member. -/
private theorem metIn_cases {m : Script.Member} {thing : Met}
    (h : metIn variants depth m = some thing) :
    (∃ t, thing = .tag t ∧ Script.Member.name? m = some tagName ∧ m.2.it.string? = some t) ∨
    (∃ name j, thing = .member (name, j) ∧ Script.Member.name? m = some name ∧ name ≠ tagName ∧
      outcome (Json.value depth) m.2.it = some j) := by
  obtain ⟨name, hname, hmet⟩ := Option.bind_eq_some_iff.1 h
  unfold met at hmet
  split at hmet
  next htag =>
    obtain ⟨t, ht, rfl⟩ := Option.map_eq_some_iff.1 hmet
    obtain ⟨tag, hstring, hknown⟩ := Option.bind_eq_some_iff.1 ht
    -- A tag that is known is itself.
    have hsame : tag = t := by
      unfold knownTag at hknown
      split at hknown
      next => exact Option.some.inj hknown
      next => cases hknown
    exact .inl ⟨t, rfl, htag ▸ hname, hsame ▸ hstring⟩
  next htag =>
    obtain ⟨j, hj, rfl⟩ := Option.map_eq_some_iff.1 hmet
    exact .inr ⟨name, j, rfl, hname, htag, hj⟩

/-- The tag that was kept is the one that the members hold. -/
private theorem tag_putMets {members : List Script.Member} {soFar last : TaggedSoFar}
    (h : members.foldlM (putMet variants depth) soFar = some last) :
    last.tag = soFar.tag.or (Json.tag? members) := by
  unfold Json.tag?
  -- Over the members: the tag is kept from where it is met on.
  induction members generalizing soFar with
  | nil =>
    obtain rfl := Option.some.inj h
    exact (Option.or_none ..).symm
  | cons m members ih =>
    rw [List.foldlM_cons] at h
    obtain ⟨next, hnext, h⟩ := Option.bind_eq_some_iff.1 h
    obtain ⟨thing, hmet, hkeep⟩ := putMet_eq_some.1 hnext
    rw [ih h, List.findSome?_cons]
    rcases metIn_cases hmet with ⟨t, rfl, hname, hstring⟩ | ⟨name, j, rfl, hname, hne, -⟩
    -- A tag that was met is the first one, for a second would not be kept.
    · rw [if_pos hname, hstring]
      obtain ⟨tag, kept⟩ := soFar
      cases tag with
      | some _ => cases hkeep
      | none =>
        obtain rfl := Option.some.inj hkeep
        rfl
    · have hother : Script.Member.name? m ≠ some tagName := by
        rw [hname]
        exact fun heq => hne (Option.some.inj heq)
      rw [if_neg hother]
      obtain rfl := Option.some.inj hkeep
      rfl

/-- The names that matter in a tagged union are the tag and those that its case knows. -/
private theorem unknown_of_reserved {members : List Script.Member} {name : String}
    (h : name ∉ (Shape.ofVariants variants).reserved members) :
    name ≠ tagName ∧ Unknown variants (Json.tag? members) name := by
  obtain ⟨hne, hother⟩ := not_or.1 (List.mem_cons.not.1 h)
  refine ⟨hne, fun tag htag v hv hname => hother ?_⟩
  have htag : Json.tag? members = some tag := htag
  rw [htag, Option.bind_some, (mem_of_find hv).2]
  exact hname

/-- The value of a member may be written differently, if what follows from all members is to
stay. -/
private theorem putMet_replace (hflat : ∀ v ∈ variants, v.fields.All Form.TakesFlat)
    {soFar last : TaggedSoFar} {m k : Script.Member} (hname : k.1.it = m.1.it)
    (hvalue : Change .free m.2.it k.2.it) (hlast : putMet variants depth soFar m = some last)
    {a : α} (hfinish : (last.finish variants).toOption = some a) :
    ∃ last', putMet variants depth soFar k = some last' ∧
      (last'.finish variants).toOption = some a := by
  obtain ⟨thing, hmet, hkeep⟩ := putMet_eq_some.1 hlast
  have hnames : Script.Member.name? k = Script.Member.name? m := congrArg Letter.name? hname
  -- A value without parts is the same as before.
  have hsame : (∃ t, m.2.it = .token t) → ∃ last', putMet variants depth soFar k = some last' ∧
      (last'.finish variants).toOption = some a := by
    rintro ⟨t, ht⟩
    rw [ht] at hvalue
    refine ⟨last, putMet_eq_some.2 ⟨thing, ?_, hkeep⟩, hfinish⟩
    unfold metIn at hmet ⊢
    rwa [hnames, hvalue.of_token, ← ht]
  rcases metIn_cases hmet with ⟨t, -, -, hstring⟩ | ⟨name, j, rfl, hm, hne, hj⟩
  · exact hsame (Json.Script.token_of_string? hstring)
  · cases hparts : j.hasParts with
    -- A value with parts belongs to no field, so its member is only kept and never taken.
    | false => exact hsame (Json.token_of_valueParts (Json.outcome_value depth _ ▸ hj) hparts)
    | true =>
      obtain rfl := Option.some.inj hkeep
      have hunknown := TaggedSoFar.unknown_of_hasParts hflat hfinish hparts
      obtain ⟨j', hj'⟩ := Option.isSome_iff_exists.1
        (hvalue.isSome_outcome (Option.isSome_iff_exists.2 ⟨j, hj⟩))
      refine ⟨{ soFar with members := (name, j') :: soFar.members },
        putMet_eq_some.2 ⟨.member (name, j'), ?_, rfl⟩, ?_⟩
      · unfold metIn met
        rw [hnames, hm, Option.bind_some, if_neg hne, hj']
        rfl
      · rw [TaggedSoFar.finish_unknown hunknown] at hfinish ⊢
        exact hfinish

/-- The elements behind the tag have no parts. -/
private theorem hasParts_of_ofTaggedElements (hflat : ∀ v ∈ variants, v.fields.All Form.TakesFlat)
    {tag : String} {items : List Json} {a : α}
    (h : (ofTaggedElements variants tag items).toOption = some a) :
    ∀ j ∈ items, j.hasParts = false := by
  unfold ofTaggedElements at h
  split at h
  next v hv =>
    unfold Variant.ofElements at h
    obtain ⟨row, hrow, -⟩ := of_then_ok (toOption_eq_some.1 h)
    obtain ⟨⟨row', left⟩, htake, hleft⟩ := of_then_ok hrow
    intro j hj
    have htaken := Fields.hasParts_of_takeElements (hflat v (mem_of_find hv).1) htake
    rcases htaken j hj with hmem | hparts
    · -- No element may be left.
      simp only at hleft
      split at hleft
      next hempty =>
        rw [List.isEmpty_iff.1 hempty] at hmem
        cases hmem
      next => cases hleft
    · exact hparts
  next => cases h

/-- An element of a list that is read as a tagged union has no parts, so it cannot be written
differently. -/
private theorem taggedParts_item (hflat : ∀ v ∈ variants, v.fields.All Form.TakesFlat)
    {shape : Shape} {blank blank' : Json.Blank} {before after : List (Spaced Script)}
    {x y : Spaced Script} (hitem : Change shape x.it y.it) {a : α}
    (h : taggedParts variants (depth + 1) (.list blank (before ++ x :: after)) = some a) :
    taggedParts variants (depth + 1) (.list blank' (before ++ y :: after)) = some a := by
  have hsame : ∀ t, x.it = .token t → y.it = x.it := fun t ht => by
    rw [ht] at hitem
    exact hitem.of_token.trans ht.symm
  cases before with
  | nil =>
    -- The tag is a string.
    obtain ⟨tag, htag, -⟩ := Option.bind_eq_some_iff.1 h
    obtain ⟨s, hs, -⟩ := Option.bind_eq_some_iff.1 htag
    obtain ⟨t, ht⟩ := Json.Script.token_of_string? hs
    simp only [List.nil_append, taggedParts, hsame t ht] at h ⊢
    exact h
  | cons first before =>
    obtain ⟨tag, htag, hitems⟩ := Option.bind_eq_some_iff.1 h
    -- Every other element is taken by a field, and has no parts.
    obtain ⟨items, hitems, hvalue⟩ := Option.bind_eq_some_iff.1 hitems
    obtain ⟨j, hj, hx⟩ := Partial.exists_of_mapM hitems
      (List.mem_append_right before (List.mem_cons_self (a := x) (l := after)))
    obtain ⟨t, ht⟩ := Json.token_of_valueParts (Json.outcome_value depth _ ▸ hx)
      (hasParts_of_ofTaggedElements hflat hvalue j hj)
    have hitems' := Partial.mapM_replace
      (f := fun x : Spaced Script => outcome (Json.value depth) x.it)
      (fun j hj => (hsame t ht).symm ▸ hj) hitems
    exact Option.bind_eq_some_iff.2
      ⟨tag, htag, Option.bind_eq_some_iff.2 ⟨items, hitems', hvalue⟩⟩

/-- The members of an object may come in any order, the tag included. -/
private theorem taggedParts_reorder {blank blank' : Json.Blank}
    {members members' : List Script.Member} (hperm : members.Perm members') {a : α}
    (h : taggedParts variants (depth + 1) (.object blank members) = some a) :
    taggedParts variants (depth + 1) (.object blank' members') = some a := by
  obtain ⟨last, hlast, hfinish⟩ := Option.bind_eq_some_iff.1 h
  obtain ⟨last', hlast', hlike⟩ := putMets_perm hperm hlast
  exact Option.bind_eq_some_iff.2 ⟨last', hlast', hlike.finish hfinish⟩

/-- What is known of all members but the last one, and of the last one. -/
private theorem taggedParts_concat {blank : Json.Blank} {members : List Script.Member}
    {m : Script.Member} {a : α} :
    taggedParts variants (depth + 1) (.object blank (members ++ [m])) = some a ↔
      ∃ soFar last, members.foldlM (putMet variants depth) {} = some soFar ∧
        putMet variants depth soFar m = some last ∧
          (last.finish variants).toOption = some a := by
  show ((members ++ [m]).foldlM (putMet variants depth) {}).bind _ = some a ↔ _
  rw [List.foldlM_append]
  constructor
  · intro h
    obtain ⟨last, hlast, hfinish⟩ := Option.bind_eq_some_iff.1 h
    obtain ⟨soFar, hsoFar, hlast⟩ := Option.bind_eq_some_iff.1 hlast
    obtain ⟨next, hnext, hlast⟩ := Option.bind_eq_some_iff.1 hlast
    obtain rfl := Option.some.inj hlast
    exact ⟨soFar, next, hsoFar, hnext, hfinish⟩
  · rintro ⟨soFar, last, hsoFar, hlast, hfinish⟩
    exact Option.bind_eq_some_iff.2 ⟨last, Option.bind_eq_some_iff.2
      ⟨soFar, hsoFar, Option.bind_eq_some_iff.2 ⟨last, hlast, rfl⟩⟩, hfinish⟩

/-- A member that the case does not know may be added anywhere. -/
private theorem taggedParts_add {blank blank' : Json.Blank} {members members' : List Script.Member}
    {m : Script.Member} (hperm : (m :: members).Perm members') {name : String} {t : Token}
    (hname : Script.Member.name? m = some name)
    (hreserved : name ∉ (Shape.ofVariants variants).reserved members) (hvalue : m.2.it = .token t)
    (hmeaning : t.value?.isSome) {a : α}
    (h : taggedParts variants (depth + 1) (.object blank members) = some a) :
    taggedParts variants (depth + 1) (.object blank' members') = some a := by
  obtain ⟨last, hlast, hfinish⟩ := Option.bind_eq_some_iff.1 h
  obtain ⟨hne, hunknown⟩ := unknown_of_reserved hreserved
  obtain ⟨j, hj⟩ := Option.isSome_iff_exists.1 hmeaning
  have hmet : metIn variants depth m = some (.member (name, j)) := by
    unfold metIn met
    rw [hname, Option.bind_some, if_neg hne, hvalue, Json.outcome_value]
    exact congrArg (Option.map _) hj
  -- At the end it makes no difference, and from there it may be moved.
  have htag : last.tag = Json.tag? members := tag_putMets hlast
  have hfinish' := TaggedSoFar.finish_unknown (htag ▸ hunknown) j
  have hback : taggedParts variants (depth + 1) (.object blank (members ++ [m])) = some a :=
    taggedParts_concat.2
      ⟨last, _, hlast, putMet_eq_some.2 ⟨_, hmet, rfl⟩, hfinish'.trans hfinish⟩
  exact taggedParts_reorder ((List.perm_append_singleton m members).trans hperm) hback

/-- The value of a member may be written differently. -/
private theorem taggedParts_member (hflat : ∀ v ∈ variants, v.fields.All Form.TakesFlat)
    {blank blank' : Json.Blank} {before after : List Script.Member} {m k : Script.Member}
    (hname : k.1.it = m.1.it) (hvalue : Change .free m.2.it k.2.it) {a : α}
    (h : taggedParts variants (depth + 1) (.object blank (before ++ m :: after)) = some a) :
    taggedParts variants (depth + 1) (.object blank' (before ++ k :: after)) = some a := by
  have hback : ∀ m : Script.Member, (before ++ m :: after).Perm ((before ++ after) ++ [m]) :=
    fun m => List.perm_middle.trans (List.perm_append_singleton m (before ++ after)).symm
  -- The member is moved to the end, changed there, and moved back.
  have hmoved : taggedParts variants (depth + 1)
      (.object blank ((before ++ after) ++ [m])) = some a := taggedParts_reorder (hback m) h
  obtain ⟨soFar, last, hsoFar, hlast, hfinish⟩ := taggedParts_concat.1 hmoved
  obtain ⟨last', hlast', hfinish'⟩ := putMet_replace hflat hname hvalue hlast hfinish
  have hchanged : taggedParts variants (depth + 1)
      (.object blank ((before ++ after) ++ [k])) = some a :=
    taggedParts_concat.2 ⟨soFar, last', hsoFar, hlast', hfinish'⟩
  exact taggedParts_reorder (hback k).symm hchanged

/-- Tagged unions are tolerated, if all fields of their cases are taken from values without
parts. -/
theorem tolerates_tagged (name : String) (toJson : α → Json)
    (hflat : ∀ v ∈ variants, v.fields.All Form.TakesFlat) :
    (tagged name variants toJson).Tolerates (.ofVariants variants) where
  covered := covered_tagged name variants toJson
  settled := settled_of_gives (gives_tagged name variants toJson)
  keeps {depth script script' a} hchange htake := by
    rw [take_eq (gives_tagged name variants toJson depth _)] at htake ⊢
    cases depth with
    -- At the deepest level nothing with parts is read.
    | zero =>
      cases script with
      | token t => cases htake
      | list blank items => cases items <;> cases htake
      | object => cases htake
    | succ depth =>
      -- One lemma for each way in which an object may change.
      cases hchange with
      | refl => exact htake
      | item hitem => exact taggedParts_item hflat hitem htake
      | reorder hperm => exact taggedParts_reorder hperm htake
      | add hperm _ hname hvalue hmeaning =>
        obtain ⟨name, hreserved, hname⟩ := hname (fun h => by cases h)
        exact taggedParts_add hperm hname hreserved hvalue (hmeaning rfl) htake
      | member hname hvalue => exact taggedParts_member hflat hname hvalue htake

end Form

end Gamebook
