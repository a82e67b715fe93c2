import Gamebook.Proofs.Decimal.Literals
import Gamebook.Proofs.Json.ScriptRecords
import Gamebook.Proofs.Partial
import Mathlib.Logic.Relation

/-!
# Rearranged scripts

A script can be written differently without a change of meaning: the members of an object come in
another order, an object has further members with names that nobody asks for, and white space stands
elsewhere. Which names somebody asks for depends on what the object is read as. A `Shape` says that
for an object and for all its parts.

Further members hold something that has no parts. One that holds a list or an object could be nested
too deep. Where members are skipped that is all that is asked of them; where they are kept until it
is known who asks for them, as those of a tagged union are, their values must be ones that can be
read.

## Key results

- `Shape`: what a script is read as, with the names that matter
- `Shape.skips`: whether members with other names are skipped
- `Change`, `Rearranged`: one way to write a script differently, and any number of them
- `Token.isSome_value?_integer`: whole numbers of 64 bits may be added wherever members may
- `Change.isSome_outcome`: what can be read as any value can still be read
-/

namespace Gamebook.Json

open Reading

/-! ## Shapes -/

/-- What a script is read as, as far as the names in it matter. -/
inductive Shape where
  /-- Something in which no name matters. -/
  | free
  /-- Something that is not even looked at. -/
  | skipped
  /-- A name, or an object that stands for one. -/
  | named
  /-- A list of things of one shape. -/
  | list (item : Shape)
  /-- A record with these fields. -/
  | record (fields : List (String × Shape))
  /-- A tagged union with these cases, by tag, each with the names of its fields. -/
  | tagged (cases : List (String × List String))

/-- The tag that the members of an object hold. -/
def tag? (members : List Script.Member) : Option String :=
  members.findSome? fun m =>
    if Script.Member.name? m = some Form.tagName then m.2.it.string? else none

namespace Shape

/-- The shape of an element of a list. A record can be written as the list of its fields. -/
def item : Shape → (position : Nat) → Shape
  | list shape, _ => shape
  | record fields, position => (fields[position]?.map Prod.snd).getD free
  | skipped, _ => skipped
  | _, _ => free

/-- The shape of a member of an object. A record skips members that no field takes. -/
def member : Shape → (name : Option String) → Shape
  | record fields, some name => (fields.lookup name).getD skipped
  | skipped, _ => skipped
  | _, _ => free

/-- The names that matter in an object: those of the fields of the record, or the tag and the fields
of the case that it names. -/
def reserved : Shape → (members : List Script.Member) → List String
  | record fields, _ => fields.map Prod.fst
  | tagged cases, members =>
    Form.tagName :: ((tag? members).bind fun tag => cases.lookup tag).getD []
  | _, _ => []

/-- Whether the values of members with other names are skipped. Elsewhere they are read as any
values. -/
def skips : Shape → Bool
  | skipped | record _ => true
  | _ => false

/-- The shape of a record with fields of these shapes. -/
def ofFields {ts : List Type} (fields : Fields ts) (shapes : List Shape) : Shape :=
  record (fields.names.zip shapes)

/-- The shape of a tagged union. -/
def ofVariants {α : Type} (variants : List (Variant α)) : Shape :=
  tagged (variants.map fun v => (v.tag, v.fields.names))

end Shape

/-! ## Changes -/

/-- A way to write a script of some shape differently. White space may always change. -/
inductive Change : Shape → Script → Script → Prop where
  | refl (shape : Shape) (script : Script) : Change shape script script
  /-- The members of an object come in another order. -/
  | reorder {shape : Shape} {blank blank' : Blank} {members members' : List Script.Member}
      (h : members.Perm members') : Change shape (.object blank members) (.object blank' members')
  /-- An object has one more member, whose name does not matter and whose value has no parts. The
  members may come in any order. -/
  | add {shape : Shape} {blank blank' : Blank} {members members' : List Script.Member}
      {m : Script.Member} {t : Token} (h : (m :: members).Perm members') (hshape : shape ≠ .named)
      (hname : shape ≠ .skipped →
        ∃ name ∉ shape.reserved members, Script.Member.name? m = some name)
      (hvalue : m.2.it = .token t) (hmeaning : shape.skips = false → t.value?.isSome) :
      Change shape (.object blank members) (.object blank' members')
  /-- An element of a list is written differently. -/
  | item {shape : Shape} {blank blank' : Blank} {before after : List (Spaced Script)}
      {x y : Spaced Script} (h : Change (shape.item before.length) x.it y.it) :
      Change shape (.list blank (before ++ x :: after)) (.list blank' (before ++ y :: after))
  /-- The value of a member is written differently. -/
  | member {shape : Shape} {blank blank' : Blank} {before after : List Script.Member}
      {m k : Script.Member} (hname : k.1.it = m.1.it)
      (h : Change (shape.member (Script.Member.name? m)) m.2.it k.2.it) :
      Change shape (.object blank (before ++ m :: after)) (.object blank' (before ++ k :: after))

/-- A whole number of 64 bits has a value, whatever its sign. A zero with a minus sign is no whole
number to the reader, but a double. -/
theorem NumberText.isSome_number? {t : NumberText} (hfraction : t.fraction = [])
    (hexponent : t.exponent = none) (hfit : Nat.ofDigitChars 10 t.whole 0 ≤ minInt64.natAbs) :
    t.number?.isSome := by
  have hfit' : Nat.ofDigitChars 10 t.whole 0 ≤ maxUInt64 := hfit.trans (by decide)
  unfold NumberText.number?
  rw [hfraction, hexponent]
  -- A positive number fits as it is, a negative zero is a float, and the rest fit with their sign.
  by_cases hsign : t.negative = false
  · simp [hsign, hfit']
  · rw [Bool.not_eq_false] at hsign
    rcases Nat.eq_zero_or_pos (Nat.ofDigitChars 10 t.whole 0) with hzero | hpos
    · have hvalue : Nat.ofDigitChars 10 (t.whole ++ []) 0 = 0 := by rwa [List.append_nil]
      have hliteral : (Decimal.literal? t.whole [] none).isSome := by
        rw [Decimal.literal?_plain hvalue (Nat.zero_le _)]
        decide +kernel
      simpa [hsign, hzero] using hliteral
    · simp [hsign, hpos, hfit]

/-- So it may be added to objects whose members are kept. -/
theorem Token.isSome_value?_integer {n : Numeral} (hfraction : n.parts.fraction = [])
    (hexponent : n.parts.exponent = none)
    (hfit : Nat.ofDigitChars 10 n.parts.whole 0 ≤ minInt64.natAbs) :
    (Token.number n).value?.isSome :=
  (Option.isSome_map ..).trans (NumberText.isSome_number? hfraction hexponent hfit)

/-- Whether a script of some shape comes from another one by changes of the way it is written. -/
def Rearranged (shape : Shape) : Script → Script → Prop := Relation.ReflTransGen (Change shape)

namespace Change

variable {shape : Shape} {script script' : Script}

/-- What has no parts cannot be written differently. -/
theorem of_token {t : Token} (h : Change shape (.token t) script) : script = .token t := by
  cases h
  rfl

/-- What stands for nothing stays the same, for no list or object does. -/
theorem isNull_eq (h : Change shape script script') : script'.isNull = script.isNull := by
  cases h <;> rfl

end Change

/-! ## Any values -/

/-- Whether a value has parts. -/
def hasParts : Json → Bool
  | .list _ | .object _ => true
  | _ => false

/-- What is read as a value without parts has none. -/
theorem token_of_valueParts {depth : Nat} {script : Script} {j : Json}
    (h : valueParts depth script = some j) (hj : j.hasParts = false) :
    ∃ t, script = .token t := by
  cases script with
  | token t => exact ⟨t, rfl⟩
  | list | object =>
    cases depth with
    | zero => cases h
    | succ depth =>
      obtain ⟨parts, -, rfl⟩ := Option.map_eq_some_iff.1 h
      cases hj

section

variable {depth : Nat}

/-- What is taken of a value is what is taken of its parts. -/
theorem outcome_value (depth : Nat) (script : Script) :
    outcome (value depth) script = valueParts depth script :=
  (gives_valueParts depth script).outcome_eq

/-- A list can be read as any value if its elements can, one level further down. -/
theorem isSome_value_list (blank : Blank) (items : List (Spaced Script)) :
    (outcome (value depth) (.list blank items)).isSome ↔
      ∃ below, depth = below + 1 ∧ ∀ x ∈ items, (outcome (value below) x.it).isSome := by
  rw [outcome_value]
  cases depth with
  | zero => simp [valueParts, inside]
  | succ below =>
    have hinside : (valueParts (below + 1) (.list blank items)).isSome =
        (items.mapM fun x => outcome (value below) x.it).isSome := Option.isSome_map ..
    rw [hinside, Partial.isSome_mapM]
    simp

/-- An object can be read as any value if its members can. -/
theorem isSome_value_object (blank : Blank) (members : List Script.Member) :
    (outcome (value depth) (.object blank members)).isSome ↔
      ∃ below, depth = below + 1 ∧ ∀ m ∈ members,
        (Script.Member.name? m).isSome ∧ (outcome (value below) m.2.it).isSome := by
  rw [outcome_value]
  cases depth with
  | zero => simp [valueParts, inside]
  | succ below =>
    -- Any member is kept whose name and value are read, whatever was kept before.
    have hkeep : ∀ kept (m : Script.Member), (putMember (keepMember below) kept m).isSome ↔
        (Script.Member.name? m).isSome ∧ (outcome (value below) m.2.it).isSome := by
      intro kept m
      unfold putMember keepMember
      cases Script.Member.name? m <;> simp
    have hinside : (valueParts (below + 1) (.object blank members)).isSome =
        (members.foldlM (putMember (keepMember below)) []).isSome := Option.isSome_map ..
    rw [hinside, Partial.isSome_foldlM hkeep]
    simp

/-- What can be read as any value can still be read if it is written differently. -/
theorem Change.isSome_outcome {script script' : Script} (h : Change .free script script')
    (hread : (outcome (value depth) script).isSome) :
    (outcome (value depth) script').isSome := by
  -- Only what stands inside may change, and that is asked for one part at a time. No name matters
  -- in the parts either.
  generalize hfree : Shape.free = shape at h
  induction h generalizing depth with
  | refl => exact hread
  | reorder hperm =>
    rw [isSome_value_object] at hread ⊢
    obtain ⟨below, rfl, hmembers⟩ := hread
    exact ⟨below, rfl, fun m hm => hmembers m (hperm.mem_iff.2 hm)⟩
  | add hperm _ hname hvalue hmeaning =>
    subst hfree
    obtain ⟨name, -, hname⟩ := hname (fun h => by cases h)
    rw [isSome_value_object] at hread ⊢
    obtain ⟨below, rfl, hmembers⟩ := hread
    refine ⟨below, rfl, fun m hm => ?_⟩
    rcases List.mem_cons.1 (hperm.mem_iff.2 hm) with rfl | hm
    · rw [hname, hvalue, outcome_value]
      exact ⟨rfl, hmeaning rfl⟩
    · exact hmembers m hm
  | item _ ih =>
    subst hfree
    rw [isSome_value_list] at hread ⊢
    obtain ⟨below, rfl, hitems⟩ := hread
    refine ⟨below, rfl, fun y hy => ?_⟩
    rcases List.mem_append.1 hy with hy | hy
    · exact hitems y (List.mem_append_left _ hy)
    · rcases List.mem_cons.1 hy with rfl | hy
      · exact ih (hitems _ (List.mem_append_right _ List.mem_cons_self)) rfl
      · exact hitems y (List.mem_append_right _ (List.mem_cons_of_mem _ hy))
  -- The member that changed is still spelled with its name, and the others are as they were.
  | member hname _ ih =>
    subst hfree
    rw [isSome_value_object] at hread ⊢
    obtain ⟨below, rfl, hmembers⟩ := hread
    refine ⟨below, rfl, fun k hk => ?_⟩
    rcases List.mem_append.1 hk with hk | hk
    · exact hmembers k (List.mem_append_left _ hk)
    · rcases List.mem_cons.1 hk with rfl | hk
      · obtain ⟨hspelled, hvalue⟩ :=
          hmembers _ (List.mem_append_right _ List.mem_cons_self)
        refine ⟨?_, ih hvalue rfl⟩
        unfold Script.Member.name? at hspelled ⊢
        rwa [hname]
      · exact hmembers k (List.mem_append_right _ (List.mem_cons_of_mem _ hk))

end

end Gamebook.Json
