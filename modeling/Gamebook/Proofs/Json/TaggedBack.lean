import Gamebook.Proofs.Json.RecordBack

/-!
# Reading back tagged unions

The members of a tagged union are read as they are and taken by the case that the tag names, since
the tag may come last. So a value comes back if the JSON of its fields is read back as such, and the
fields are taken back from it.

## Key results

- `Form.TakesBack`: whether a form takes a value back from JSON that was read before
- `takesBack_text`, `takesBack_uint32`, `takesBack_int64`, `takesBack_some`: the basic forms do
- `ofMembers_members`: a record with distinct names is taken back from its own members
- `readsBack_tagged`: a value of a tagged union is read back if its fields are taken back
-/

namespace Gamebook

open Json (Reader Gap Closes)
open Reading

/-! ## Taking values back -/

namespace Form

variable {α β : Type} {form : Form α} {depth : Nat}

/-- Whether a form takes a value back from the JSON that it is written as, once that was read from
its text with `depth` levels of nesting to spare. -/
structure TakesBack (form : Form α) (depth : Nat) (a : α) : Prop where
  /-- The JSON is read. -/
  reads : any.ReadsBack depth (form.toJson a)
  /-- The value is taken from it. -/
  takes : form.ofJson (form.toJson a) = .ok a

/-- A text is taken back. -/
theorem takesBack_text (depth : Nat) (s : String) : text.TakesBack depth s :=
  ⟨readsBack_any_text depth s, rfl⟩

/-- Whole numbers are taken back within their bounds. -/
theorem takesBack_whole (expected : String) {least greatest n : Int} (depth : Nat)
    (hleast : least ≤ n) (hgreatest : n ≤ greatest) (hmin : minInt64 ≤ n) (hmax : n ≤ maxUInt64) :
    (whole expected least greatest).TakesBack depth n := by
  refine ⟨readsBack_any_int depth hmin hmax, ?_⟩
  exact if_pos (And.intro hleast hgreatest)

/-- A form in one-to-one correspondence takes back what the other form does. -/
theorem TakesBack.map {b : β} {forth : α → β} {back : β → α} (h : form.TakesBack depth (back b))
    (hback : forth (back b) = b) : (form.map forth back).TakesBack depth b := by
  refine ⟨h.reads, ?_⟩
  show (forth <$> form.ofJson (form.toJson (back b))) = .ok b
  rw [h.takes]
  exact congrArg Except.ok hback

/-- A whole number of 32 bits is taken back. -/
theorem takesBack_uint32 (depth : Nat) (n : UInt32) : uint32.TakesBack depth n := by
  obtain ⟨hleast, hgreatest, hmin, hmax⟩ := uint32_bounds n
  exact TakesBack.map (takesBack_whole "u32" depth hleast hgreatest hmin hmax) (by simp)

/-- A signed number of 64 bits is taken back. -/
theorem takesBack_int64 (depth : Nat) (n : Int64) : int64.TakesBack depth n := by
  obtain ⟨hleast, hgreatest, hmax⟩ := int64_bounds n
  exact TakesBack.map (takesBack_whole "i64" depth hleast hgreatest hleast hmax) (by simp)

/-- An optional value that is there is taken back, if it is not written as `null`. -/
theorem takesBack_some {a : α} (h : form.TakesBack depth a)
    (hnull : (form.toJson a).mayBeNull = false) : form.optional.TakesBack depth (some a) := by
  refine ⟨h.reads, ?_⟩
  -- Which JSON it is decides whether a value is there, and it is not `null`.
  have htakes := h.takes
  show form.optional.ofJson (form.toJson a) = .ok (some a)
  cases hjson : form.toJson a with
  | null =>
    rw [hjson] at hnull
    cases hnull
  | _ =>
    rw [hjson] at htakes
    show (some <$> form.ofJson _) = _
    rw [htakes]
    rfl

end Form

/-! ## Taking members -/

namespace Fields

variable {α : Type} {ts : List Type} {depth : Nat}

/-- Whether all fields of a record are taken back, or filled by their defaults if they are left
out. -/
def TakesBack (depth : Nat) : {ts : List Type} → Fields ts → Row ts → Prop
  | _, .nil, _ => True
  | _, .cons field rest, (a, row) =>
    (if field.leftOut a then field.default = some a else field.form.TakesBack depth a) ∧
      rest.TakesBack depth row

/-- A record that is taken back leaves out nothing but defaults. -/
theorem TakesBack.leavesDefaults {fields : Fields ts} {row : Row ts}
    (h : fields.TakesBack depth row) : fields.LeavesDefaults row := by
  induction fields with
  | nil => trivial
  | cons field rest ih =>
    obtain ⟨a, row⟩ := row
    -- What is asked of a field that is left out is that its default stands for it.
    exact ⟨fun hleft => (if_pos hleft).mp h.1, ih h.2⟩

/-- The JSON of every member of a record that is taken back is read from its text. -/
theorem TakesBack.reads {fields : Fields ts} {row : Row ts} (h : fields.TakesBack depth row) :
    ∀ member ∈ fields.members row, Form.any.ReadsBack depth member.2 := by
  induction fields with
  | nil => exact fun _ hmember => absurd hmember List.not_mem_nil
  | cons field rest ih =>
    obtain ⟨a, row⟩ := row
    obtain ⟨hfield, hrest⟩ := h
    intro member hmember
    rw [members_cons] at hmember
    -- A field that is left out adds no member, and any other is the first of them.
    split at hmember
    · exact ih hrest member hmember
    · rename_i hleft
      rw [if_neg hleft] at hfield
      rcases List.mem_cons.1 hmember with rfl | hmember
      · exact hfield.reads
      · exact ih hrest member hmember

/-- Takes members one after the other. -/
private abbrev takeMembers (fields : Fields ts) (slots : Slots ts) (list : List (String × Json)) :
    Except Json.Problem (Slots ts) :=
  list.foldlM (fun slots member => fields.takeMember slots member.1 member.2) slots

/-- A member is taken, and then the others. -/
private theorem takeMembers_cons {fields : Fields ts} {s next : Slots ts} {name : String} {j : Json}
    (list : List (String × Json)) (h : fields.takeMember s name j = .ok next) :
    takeMembers fields s ((name, j) :: list) = takeMembers fields next list := by
  unfold takeMembers
  rw [List.foldlM_cons, h]
  rfl

/-- Members with other names pass a field by. -/
private theorem takeMembers_lift (field : Field α) (rest : Fields ts) (slot : Option α)
    {s last : Slots ts} {list : List (String × Json)} (h : takeMembers rest s list = .ok last)
    (hnames : ∀ member ∈ list, member.1 ≠ field.name) :
    takeMembers (.cons field rest) (slot, s) list = .ok (slot, last) := by
  -- The other slots fill up on the way, so they may be any.
  induction list generalizing s with
  | nil =>
    obtain rfl : s = last := Except.ok.inj h
    rfl
  | cons member list ih =>
    obtain ⟨name, j⟩ := member
    have hne : name ≠ field.name := hnames (name, j) List.mem_cons_self
    obtain ⟨next, hmember, hothers⟩ := of_then_ok ((List.foldlM_cons ..).symm.trans h)
    -- A member with another name leaves the slot of the field as it is.
    have hpass : (Fields.cons field rest).takeMember (slot, s) name j = .ok (slot, next) := by
      refine (if_neg hne).trans ?_
      rw [hmember]
      rfl
    rw [takeMembers_cons list hpass]
    exact ih hothers fun member hmember => hnames member (List.mem_cons_of_mem _ hmember)

/-- A record with distinct names takes its own members back. -/
private theorem takeMembers_members (fields : Fields ts) (row : Row ts)
    (hnames : fields.names.Nodup) (h : fields.TakesBack depth row) :
    takeMembers fields (Slots.empty ts) (fields.members row) = .ok (fields.written row) := by
  -- Over the fields: the first takes its member, the members of the rest pass it by.
  induction fields with
  | nil => rfl
  | @cons β us field rest ih =>
    obtain ⟨a, row⟩ := row
    obtain ⟨hfield, hrest⟩ := h
    obtain ⟨hnew, hnodup⟩ := List.nodup_cons.1 hnames
    have hothers : ∀ member ∈ rest.members row, member.1 ≠ field.name := fun member hmember heq =>
      hnew (heq ▸ fst_mem_names rest row member hmember)
    have htaken := ih row hnodup hrest
    rw [members_cons]
    show takeMembers (.cons field rest) (none, Slots.empty us) _ =
      .ok ((if field.leftOut a then none else some a, rest.written row) : Option β × Slots us)
    -- The members after that of the first field have other names, and pass it by.
    cases hleft : field.leftOut a with
    | true => exact takeMembers_lift field rest none htaken hothers
    | false =>
      rw [if_neg (by simp [hleft])] at hfield
      have htake : (Fields.cons field rest).takeMember (none, Slots.empty us) field.name
          (field.form.toJson a) = .ok (some a, Slots.empty us) := by
        refine (if_pos rfl).trans ?_
        rw [hfield.takes]
        rfl
      exact (takeMembers_cons _ htake).trans (takeMembers_lift field rest (some a) htaken hothers)

/-- A record with distinct names is taken back from its own members. -/
theorem ofMembers_members (fields : Fields ts) (row : Row ts) (hnames : fields.names.Nodup)
    (h : fields.TakesBack depth row) : fields.ofMembers (fields.members row) = .ok row := by
  show (takeMembers fields (Slots.empty ts) (fields.members row) >>= fields.fill) = _
  rw [takeMembers_members fields row hnames h]
  exact fill_written fields row h.leavesDefaults

/-- A field that must be present is taken back if its form takes it back. -/
theorem takesBack_required {name : String} {form : Form α} {rest : Fields ts} {a : α} {row : Row ts}
    (ha : form.TakesBack depth a) (hrest : rest.TakesBack depth row) :
    (Fields.cons (.required name form) rest).TakesBack depth (a, row) :=
  ⟨ha, hrest⟩

/-- A field that may be absent is taken back if its form takes back what is there, and does not
write it as `null`. -/
theorem takesBack_optional {name : String} {form : Form α} {rest : Fields ts} {a? : Option α}
    {row : Row ts} (hnull : ∀ a, (form.toJson a).mayBeNull = false)
    (ha : ∀ a ∈ a?, form.TakesBack depth a) (hrest : rest.TakesBack depth row) :
    (Fields.cons (.optional name form) rest).TakesBack depth (a?, row) := by
  refine ⟨?_, hrest⟩
  cases a? with
  | none => rfl
  | some a => exact Form.takesBack_some (ha a rfl) (hnull a)

end Fields

/-! ## Tagged unions -/

namespace Form

variable {α : Type} {depth : Nat}

/-- Members other than the tag are kept as they are. -/
private theorem memberRun_kept (variants : List (Variant α)) (tag : Option String)
    (kept : List (String × Json)) {list : List (String × Json)}
    (hnames : ∀ member ∈ list, member.1 ≠ tagName)
    (hreads : ∀ member ∈ list, any.ReadsBack depth member.2) :
    Json.MemberRun (readTaggedMember variants depth) { tag, members := kept } list
      (.ok { tag, members := list.reverse ++ kept }) := by
  -- What was kept before is in the way of nothing, so it may be anything.
  induction list generalizing kept with
  | nil => exact .nil _
  | cons member list ih =>
    obtain ⟨name, j⟩ := member
    have hne : name ≠ tagName := hnames (name, j) List.mem_cons_self
    -- What is kept has the last member first.
    have hkeep : ∀ level rest, Closes rest →
        readTaggedMember variants depth { tag, members := kept } name
          (':' :: ' ' :: (Json.laidOut level j ++ rest)) =
        .ok ({ tag, members := (name, j) :: kept }, rest) := by
      intro level rest hrest
      have hread : Json.value depth ([' '] ++ (Json.laidOut level j ++ rest)) = .ok (j, rest) :=
        (hreads (name, j) List.mem_cons_self).reads level [' '] rest Json.gap_space hrest
      unfold readTaggedMember
      rw [if_neg hne, bind_ok _ (Json.colon_cons _)]
      refine (bind_ok _ hread).trans ?_
      rfl
    rw [List.reverse_cons, List.append_assoc]
    exact .cons hkeep (ih ((name, j) :: kept)
      (fun member hmember => hnames member (List.mem_cons_of_mem _ hmember))
      (fun member hmember => hreads member (List.mem_cons_of_mem _ hmember)))

/-- The tag is kept if it names a case. -/
private theorem readTaggedMember_tag (depth : Nat) {variants : List (Variant α)} {v : Variant α}
    (hfind : Variant.find variants v.tag = .ok v) (level : Nat) (rest : List Char)
    (hrest : Closes rest) :
    readTaggedMember variants depth {} tagName
      (':' :: ' ' :: (Json.laidOut level (.text v.tag) ++ rest)) =
    .ok ({ tag := some v.tag }, rest) := by
  have hread : readTag ([' '] ++ (Json.laidOut level (.text v.tag) ++ rest)) =
      .ok (v.tag, rest) :=
    (readsBack_textOf "variant identifier" 0 v.tag).reads level [' '] rest Json.gap_space hrest
  unfold readTaggedMember
  rw [if_pos rfl]
  simp only
  rw [bind_ok _ (Json.colon_cons _)]
  refine (bind_ok _ hread).trans ?_
  unfold knownTag
  rw [hfind]
  rfl

/-- A value of a tagged union is read back if its tag names its case, and the fields of the case are
taken back. -/
theorem readsBack_tagged (name : String) {variants : List (Variant α)} {toJson : α → Json}
    {v : Variant α} (row : Row v.types) (hfind : Variant.find variants v.tag = .ok v)
    (hjson : toJson (v.make row) = .object ((tagName, .text v.tag) :: v.fields.members row))
    (hnames : (tagName :: v.fields.names).Nodup) (h : v.fields.TakesBack depth row) :
    (tagged name variants toJson).ReadsBack (depth + 1) (v.make row) := by
  obtain ⟨htag, hnodup⟩ := List.nodup_cons.1 hnames
  have hothers : ∀ member ∈ v.fields.members row, member.1 ≠ tagName := fun member hmember heq =>
    htag (heq ▸ Fields.fst_mem_names v.fields row member hmember)
  -- The tag is written first, and nothing is kept before it.
  have hrun := Json.MemberRun.cons (readTaggedMember_tag depth hfind)
    (memberRun_kept variants (some v.tag) [] hothers h.reads)
  -- The case gets its members in the order of the text.
  have hfinish : TaggedSoFar.finish variants
      { tag := some v.tag, members := (v.fields.members row).reverse ++ [] } =
      .ok (v.make row) := by
    unfold TaggedSoFar.finish
    simp only [hfind, List.append_nil, List.reverse_reverse]
    unfold Variant.ofMembers
    rw [Fields.ofMembers_members v.fields row hnodup h]
    rfl
  refine ⟨fun level => ?_, fun level gap rest hgap _ => ?_⟩
  · rw [show (tagged name variants toJson).toJson (v.make row) = _ from hjson]
    exact Json.laidOut_opens level _ nofun
  · obtain ⟨after, htext, hread⟩ := Json.objectFrom_run hrun level rest
    rw [show (tagged name variants toJson).toJson (v.make row) = _ from hjson, htext]
    show (Json.next? >>= _) (gap ++ '{' :: after) = _
    rw [bind_ok _ (Json.next?_gap hgap (by decide) _)]
    show (Json.advance >>= _) ('{' :: after) = _
    rw [bind_ok _ (Json.advance_cons _ _), bind_ok _ hread, hfinish]
    rfl

end Form

end Gamebook
