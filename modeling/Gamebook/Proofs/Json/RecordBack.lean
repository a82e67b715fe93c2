import Gamebook.Json.Record
import Gamebook.Proofs.Json.ReadBack

/-!
# Reading back records

A record is written with a member for each field that is not left out. Reading the members one after
the other fills the slots of these fields, and the defaults fill the others, so a record is read
back if its fields are.

## Key results

- `MemberRun`: the steps in which a reader takes the members of an object
- `objectFrom_run`: such steps read the text that the object is laid out as
- `memberRun_members`: a record with distinct names takes its own members
- `answers_record`: records are answered by their fields
- `readsBack_record`: records are read back if their fields are
-/

namespace Gamebook

open Json (Reader Gap Closes)
open Reading

/-! ## Objects -/

namespace Json

variable {σ : Type} {gap : List Char}

/-- An object may end where a member could stand. -/
theorem hasMember_end (first : Bool) (hgap : Gap gap) (rest : List Char) :
    hasMember first (gap ++ '}' :: rest) = .ok (false, '}' :: rest) := by
  unfold hasMember
  rw [bind_ok _ (next?_gap hgap (by decide) _)]
  rfl

/-- The first member of an object follows the brace. -/
theorem hasMember_first (hgap : Gap gap) (rest : List Char) :
    hasMember true (gap ++ '"' :: rest) = .ok (true, rest) := by
  unfold hasMember
  rw [bind_ok _ (next?_gap hgap (by decide) _)]
  rfl

/-- Every other member follows a comma. -/
theorem hasMember_next (hgap : Gap gap) (rest : List Char) :
    hasMember false (',' :: (gap ++ '"' :: rest)) = .ok (true, rest) := by
  unfold hasMember
  rw [bind_ok _ (next?_cons (by decide) _)]
  show (advance >>= _) (',' :: (gap ++ '"' :: rest)) = _
  rw [bind_ok _ (advance_cons _ _), bind_ok _ (next?_gap hgap (by decide) _)]
  rfl

/-- The colon is read alone. -/
theorem colon_cons (rest : List Char) : colon (':' :: rest) = .ok ((), rest) := by
  unfold colon
  rw [bind_ok _ (next?_cons (by decide) _)]
  rfl

/-- The steps in which a reader takes the members of an object, up to the end or to a problem: each
is given the name and reads the text from the colon on. -/
inductive MemberRun (step : σ → String → Reader σ) :
    σ → List (String × Json) → Except Problem σ → Prop where
  | nil (s : σ) : MemberRun step s [] (.ok s)
  | cons {s next : σ} {result : Except Problem σ} {name : String} {j : Json}
      {members : List (String × Json)}
      (hstep : ∀ level rest, Closes rest →
        step s name (':' :: ' ' :: (laidOut level j ++ rest)) = .ok (next, rest))
      (hrest : MemberRun step next members result) : MemberRun step s ((name, j) :: members) result
  | stop {s : σ} {e : Problem} {name : String} {j : Json} {members : List (String × Json)}
      (hstep : ∀ level rest, Closes rest →
        step s name (':' :: ' ' :: (laidOut level j ++ rest)) = .error e) :
      MemberRun step s ((name, j) :: members) (.error e)

/-- The text of an object from after its first member on. -/
private def restOfObject (level : Nat) (members : List (String × Json)) (rest : List Char) :
    List Char :=
  laidOutMembers (level + 1) members ++ (newline level ++ '}' :: rest)

/-- Behind a member come a comma, a new line, the next name and its value. -/
private theorem restOfObject_cons (level : Nat) (name : String) (j : Json)
    (members : List (String × Json)) (rest : List Char) :
    restOfObject level ((name, j) :: members) rest =
      ',' :: (newline (level + 1) ++ '"' :: (name.toList.flatMap escapedChar ++
        '"' :: ':' :: ' ' :: (laidOut (level + 1) j ++ restOfObject level members rest))) := by
  unfold restOfObject
  simp [laidOutMembers, laidOutMember, stringText, List.append_assoc]

/-- A number ends before what follows in an object. -/
private theorem closes_restOfObject (level : Nat) (members : List (String × Json))
    (rest : List Char) : Closes (restOfObject level members rest) := by
  cases members with
  | nil => exact closes_newline level _
  | cons member members =>
    rw [restOfObject_cons]
    exact closes_cons (by decide) _

/-- What follows in an object is longer than its members are many. -/
private theorem length_lt_restOfObject (level : Nat) (list : List (String × Json))
    (rest : List Char) : list.length < (restOfObject level list rest).length := by
  induction list with
  | nil => simp [restOfObject, laidOutMembers, newline]
  | cons member list ih =>
    rw [restOfObject_cons]
    simp only [List.length_cons, List.length_append]
    omega

variable {step : σ → String → Reader σ}

/-- A member is read, and then the others, unless there is a problem with it. -/
private theorem members_cons {fuel : Nat} {first : Bool} {text after : List Char} {s : σ}
    {name : String} (result : Except Problem σ) (rest : List Char)
    (hmore : hasMember first text = .ok (true, name.toList.flatMap escapedChar ++ '"' :: after))
    (hstep : step s name after = result.map (·, rest)) :
    members step (fuel + 1) first s text =
      result >>= fun next => members step fuel false next rest := by
  conv =>
    lhs
    unfold members
  rw [bind_ok _ hmore]
  simp only [↓reduceIte]
  rw [bind_ok _ (string_flatMap name after), bind_answer _ hstep]

/-- No member is read where the object ends. -/
theorem members_end (fuel : Nat) (first : Bool) (s : σ) (hgap : Gap gap)
    (rest : List Char) :
    members step (fuel + 1) first s (gap ++ '}' :: rest) = .ok (s, rest) := by
  unfold members
  rw [bind_ok _ (hasMember_end first hgap rest)]
  rfl

/-- The members after the first are read up to the end of the object. -/
private theorem members_restOfObject (level : Nat) (rest : List Char) {s : σ}
    {result : Except Problem σ} {list : List (String × Json)} (hrun : MemberRun step s list result)
    (fuel : Nat) (hfuel : list.length < fuel) :
    members step fuel false s (restOfObject level list rest) = result.map (·, rest) := by
  -- On the run, with fuel for each member and for the end.
  induction hrun generalizing fuel with
  | nil s =>
    obtain ⟨fuel, rfl⟩ := Nat.exists_eq_add_one_of_ne_zero (Nat.ne_zero_of_lt hfuel)
    exact members_end fuel false s (gap_newline level) rest
  | @cons _ next _ _ _ _ hstep hrun ih =>
    obtain ⟨fuel, rfl⟩ := Nat.exists_eq_add_one_of_ne_zero (Nat.ne_zero_of_lt hfuel)
    rw [restOfObject_cons]
    refine (members_cons (.ok next) _ (hasMember_next (gap_newline (level + 1)) _)
      (hstep (level + 1) _ (closes_restOfObject level _ rest))).trans ?_
    exact ih fuel (by simp at hfuel; omega)
  | @stop _ e _ _ _ hstep =>
    obtain ⟨fuel, rfl⟩ := Nat.exists_eq_add_one_of_ne_zero (Nat.ne_zero_of_lt hfuel)
    rw [restOfObject_cons]
    exact members_cons (.error e) [] (hasMember_next (gap_newline (level + 1)) _)
      (hstep (level + 1) _ (closes_restOfObject level _ rest))

/-- A run through the members reads the text that the object is laid out as. -/
theorem objectFrom_run {s : σ} {result : Except Problem σ} {list : List (String × Json)}
    (hrun : MemberRun step s list result) (level : Nat) (rest : List Char) :
    ∃ after, laidOut level (.object list) ++ rest = '{' :: after ∧
      objectFrom step s after = result.map (·, rest) := by
  cases list with
  | nil =>
    cases hrun
    refine ⟨'}' :: rest, rfl, ?_⟩
    unfold objectFrom
    rw [bind_ok _ (get_ok _)]
    exact members_end _ true s gap_nil rest
  | cons member list =>
    obtain ⟨name, j⟩ := member
    -- Every member takes up some of the text, so its length is fuel enough.
    have hlength := length_lt_restOfObject level list rest
    refine ⟨newline (level + 1) ++ '"' :: (name.toList.flatMap escapedChar ++ '"' :: ':' :: ' ' ::
      (laidOut (level + 1) j ++ restOfObject level list rest)), ?_, ?_⟩
    · simp [laidOut, laidOutMember, stringText, restOfObject, List.append_assoc]
    · unfold objectFrom
      rw [bind_ok _ (get_ok _)]
      -- The run begins with the first member, which no comma stands before.
      cases hrun with
      | @cons _ next _ _ _ _ hstep hrun =>
        refine (members_cons (.ok next) _ (hasMember_first (gap_newline (level + 1)) _)
          (hstep (level + 1) _ (closes_restOfObject level list rest))).trans ?_
        refine members_restOfObject level rest hrun _ ?_
        simp only [List.length_append, List.length_cons]
        omega
      | @stop _ e _ _ _ hstep =>
        exact members_cons (.error e) [] (hasMember_first (gap_newline (level + 1)) _)
          (hstep (level + 1) _ (closes_restOfObject level list rest))

end Json

/-! ## Fields -/

namespace Fields

/-- The names of the fields. -/
def names : {ts : List Type} → Fields ts → List String
  | _, .nil => []
  | _, .cons field rest => field.name :: rest.names

/-- The slots once the members of a record are read: those of fields that are left out stay
empty. -/
def written : {ts : List Type} → Fields ts → Row ts → Slots ts
  | _, .nil, _ => ()
  | _, .cons field rest, (a, row) =>
    (if field.leftOut a then none else some a, rest.written row)

/-- Whether all fields of a record are read back, or filled by their defaults if they are left
out. -/
def ReadsBack (depth : Nat) : {ts : List Type} → Fields ts → Row ts → Prop
  | _, .nil, _ => True
  | _, .cons field rest, (a, row) =>
    (if field.leftOut a then field.default = some a else field.form.ReadsBack depth a) ∧
      rest.ReadsBack depth row

/-- What a record is answered with, when its members are met in order: fields that are left out are
filled by their defaults, and the first problem with a field is reported. -/
def Answers (depth : Nat) :
    {ts : List Type} → Fields ts → Row ts → Except Json.Problem (Row ts) → Prop
  | _, .nil, _, result => result = .ok ()
  | _, .cons field rest, (a, row), result =>
    (∃ b others, (if field.leftOut a then field.default = some b
        else field.form.Answers depth (field.form.toJson a) (.ok b)) ∧
      rest.Answers depth row others ∧ result = others.map (b, ·)) ∨
    (field.leftOut a = false ∧ ∃ e,
      field.form.Answers depth (field.form.toJson a) (.error e) ∧ result = .error e)

variable {α : Type} {ts : List Type}

/-- A row is written member by member, but for the fields that are left out. -/
theorem members_cons (field : Field α) (rest : Fields ts) (a : α) (row : Row ts) :
    (Fields.cons field rest).members (a, row) =
      if field.leftOut a then rest.members row
      else (field.name, field.form.toJson a) :: rest.members row := rfl

/-- A member with another name is left to the other fields. -/
theorem readMember_other (depth : Nat) (field : Field α) (rest : Fields ts) (slot : Option α)
    (slots : Slots ts) {name : String} (hne : name ≠ field.name) :
    (Fields.cons field rest).readMember depth (slot, slots) name =
      (do
        let slots ← rest.readMember depth slots name
        return ((slot, slots) : Option α × Slots ts) : Reader (Option α × Slots ts)) :=
  if_neg hne

/-- A member with the name of the field fills its slot. -/
theorem readMember_same (depth : Nat) (field : Field α) (rest : Fields ts) (slots : Slots ts) :
    (Fields.cons field rest).readMember depth (none, slots) field.name =
      (do
        Json.colon
        let a ← field.form.read depth
        return ((some a, slots) : Option α × Slots ts) : Reader (Option α × Slots ts)) :=
  if_pos rfl

/-- A field that was read keeps its value. -/
theorem fill_present (field : Field α) (rest : Fields ts) (a : α) (slots : Slots ts) :
    (Fields.cons field rest).fill (some a, slots) =
      (rest.fill slots >>= fun row => (pure (a, row) : Except Json.Problem (α × Row ts))) := rfl

/-- A field that is absent takes its default. -/
theorem fill_absent (field : Field α) (rest : Fields ts) (slots : Slots ts) {a : α}
    (hdefault : field.default = some a) :
    (Fields.cons field rest).fill (none, slots) =
      (rest.fill slots >>= fun row => (pure (a, row) : Except Json.Problem (α × Row ts))) := by
  obtain ⟨name, form, default, leftOut⟩ := field
  obtain rfl : default = some a := hdefault
  rfl

/-- Only names of fields are written. -/
theorem fst_mem_names (fields : Fields ts) (row : Row ts) :
    ∀ member ∈ fields.members row, member.1 ∈ fields.names := by
  induction fields with
  | nil => exact fun _ h => absurd h List.not_mem_nil
  | cons field rest ih =>
    obtain ⟨a, row⟩ := row
    intro member hmember
    rw [members_cons] at hmember
    -- A member is that of the first field, unless this is left out, or one of the rest.
    split at hmember
    · exact List.mem_cons_of_mem _ (ih row member hmember)
    · rcases List.mem_cons.1 hmember with rfl | hmember
      · exact List.mem_cons_self
      · exact List.mem_cons_of_mem _ (ih row member hmember)

/-- Members with other names pass a field by. -/
theorem memberRun_lift {depth : Nat} (field : Field α) (rest : Fields ts) (slot : Option α)
    {s : Slots ts} {result : Except Json.Problem (Slots ts)} {list : List (String × Json)}
    (hrun : Json.MemberRun (rest.readMember depth) s list result)
    (hnames : ∀ member ∈ list, member.1 ≠ field.name) :
    Json.MemberRun ((Fields.cons field rest).readMember depth) (slot, s) list
      (result.map (slot, ·)) := by
  -- The slot is handed on through every member, and through a problem with one.
  have hpass : ∀ {s : Slots ts} {name : String}, name ≠ field.name →
      ∀ (taken : Except Json.Problem (Slots ts)) {before : List Char} (after : List Char),
      rest.readMember depth s name before = taken.map (·, after) →
      (Fields.cons field rest).readMember depth (slot, s) name before =
        (taken.map (slot, ·)).map (·, after) := by
    intro s name hne taken before after h
    rw [readMember_other depth field rest slot s hne, bind_answer _ h]
    cases taken <;> rfl
  -- Over the run for the rest of the fields, which goes through the same members.
  induction hrun with
  | nil s => exact .nil (slot, s)
  | @cons s next result name j list hstep hrun ih =>
    have hne : name ≠ field.name := hnames (name, j) List.mem_cons_self
    exact .cons (fun level text htext => hpass hne (.ok next) text (hstep level text htext))
      (ih fun member hmember => hnames member (List.mem_cons_of_mem _ hmember))
  | @stop s e name j list hstep =>
    have hne : name ≠ field.name := hnames (name, j) List.mem_cons_self
    exact .stop fun level text htext => hpass hne (.error e) text (hstep level text htext)

/-- A record with distinct names takes its own members, and the defaults fill the rest. -/
theorem memberRun_members {depth : Nat} (fields : Fields ts) (row : Row ts)
    {result : Except Json.Problem (Row ts)} (hnames : fields.names.Nodup)
    (h : fields.Answers depth row result) :
    ∃ slots, Json.MemberRun (fields.readMember depth) (Slots.empty ts) (fields.members row) slots ∧
      slots >>= fields.fill = result := by
  -- Over the fields: the first takes its member, and all other members pass it by.
  induction fields with
  | nil =>
    obtain rfl : result = .ok () := h
    exact ⟨.ok (), .nil _, rfl⟩
  | @cons β us field rest ih =>
    obtain ⟨a, row⟩ := row
    obtain ⟨hnew, hnodup⟩ := List.nodup_cons.1 hnames
    have hothers : ∀ member ∈ rest.members row, member.1 ≠ field.name := fun member hmember heq =>
      hnew (heq ▸ fst_mem_names rest row member hmember)
    -- The form of a field reads its member, from the colon on.
    have hread : ∀ {answer : Except Json.Problem β},
        field.form.Answers depth (field.form.toJson a) answer → ∀ level text, Closes text →
        (Fields.cons field rest).readMember depth (none, Slots.empty us) field.name
          (':' :: ' ' :: (Json.laidOut level (field.form.toJson a) ++ text)) =
        (answer.map fun b => ((some b, Slots.empty us) : Option β × Slots us)).map (·, text) := by
      intro answer hanswer level text htext
      rw [readMember_same depth field rest, bind_ok _ (Json.colon_cons _)]
      refine (bind_answer _ (hanswer.reads level [' '] text Json.gap_space htext)).trans ?_
      cases answer <;> rfl
    rw [members_cons]
    -- Either the field is read and the others are too, or the field is where reading stops.
    rcases h with ⟨b, others, hfield, hrest, rfl⟩ | ⟨hleft, e, hfield, rfl⟩
    · obtain ⟨slots, hrun, hfill⟩ := ih row hnodup hrest
      cases hleft : field.leftOut a with
      | true =>
        rw [if_pos hleft] at hfield
        refine ⟨slots.map (none, ·), memberRun_lift field rest none hrun hothers, ?_⟩
        rw [← hfill]
        cases slots with
        | error e => rfl
        | ok slots => exact fill_absent field rest slots hfield
      | false =>
        -- A field that is written fills its slot first, and the other members pass it by.
        rw [if_neg (by simp [hleft])] at hfield
        refine ⟨slots.map (some b, ·),
          .cons (hread hfield) (memberRun_lift field rest (some b) hrun hothers), ?_⟩
        rw [← hfill]
        cases slots with
        | error e => rfl
        | ok slots => exact fill_present field rest b slots
    · rw [hleft]
      exact ⟨.error e, .stop (hread hfield), rfl⟩

/-- Whether the fields that are left out are those that hold their defaults. -/
def LeavesDefaults : {ts : List Type} → Fields ts → Row ts → Prop
  | _, .nil, _ => True
  | _, .cons field rest, (a, row) =>
    (field.leftOut a = true → field.default = some a) ∧ rest.LeavesDefaults row

/-- The defaults fill the fields that were left out. -/
theorem fill_written (fields : Fields ts) (row : Row ts) (h : fields.LeavesDefaults row) :
    fields.fill (fields.written row) = .ok row := by
  induction fields with
  | nil => rfl
  | cons field rest ih =>
    obtain ⟨a, row⟩ := row
    obtain ⟨hfield, hrest⟩ := h
    show (Fields.cons field rest).fill
      (if field.leftOut a then none else some a, rest.written row) = _
    -- A field that is left out is filled with its default, which is what the row has there.
    cases hleft : field.leftOut a with
    | true =>
      rw [if_pos rfl, fill_absent field rest _ (hfield hleft), ih row hrest]
      rfl
    | false =>
      rw [if_neg Bool.false_ne_true, fill_present field rest a, ih row hrest]
      rfl

/-- A record that is read back is answered with itself. -/
theorem ReadsBack.answers {depth : Nat} {fields : Fields ts} {row : Row ts}
    (h : fields.ReadsBack depth row) : fields.Answers depth row (.ok row) := by
  induction fields with
  | nil => rfl
  | cons field rest ih =>
    obtain ⟨a, row⟩ := row
    refine .inl ⟨a, .ok row, ?_, ih h.2, rfl⟩
    have hfield := h.1
    -- A field that is left out is answered by its default, any other by what was written.
    split at hfield
    next hleft => rwa [if_pos hleft]
    next hleft =>
      rw [if_neg hleft]
      exact hfield.answers

/-- A field that must be present is answered by its form, if the others are answered. -/
theorem answers_required {depth : Nat} {name : String} {form : Form α} {rest : Fields ts} {a b : α}
    {row others : Row ts} (ha : form.Answers depth (form.toJson a) (.ok b))
    (hrest : rest.Answers depth row (.ok others)) :
    (Fields.cons (.required name form) rest).Answers depth (a, row) (.ok (b, others)) :=
  .inl ⟨b, .ok others, ha, hrest, rfl⟩

/-- A problem with such a field is a problem with the record. -/
theorem answers_required_error {depth : Nat} {name : String} {form : Form α} {rest : Fields ts}
    {a : α} {row : Row ts} {e : Json.Problem}
    (ha : form.Answers depth (form.toJson a) (.error e)) :
    (Fields.cons (.required name form) rest).Answers depth (a, row) (.error e) :=
  .inr ⟨rfl, e, ha, rfl⟩

/-- So is a problem with a field after it. -/
theorem answers_required_later {depth : Nat} {name : String} {form : Form α} {rest : Fields ts}
    {a b : α} {row : Row ts} {e : Json.Problem} (ha : form.Answers depth (form.toJson a) (.ok b))
    (hrest : rest.Answers depth row (.error e)) :
    (Fields.cons (.required name form) rest).Answers depth (a, row) (.error e) :=
  .inl ⟨b, .error e, ha, hrest, rfl⟩

/-- A field that must be present is read back if its form reads it back. -/
theorem readsBack_required {depth : Nat} {name : String} {form : Form α} {rest : Fields ts} {a : α}
    {row : Row ts} (ha : form.ReadsBack depth a) (hrest : rest.ReadsBack depth row) :
    (Fields.cons (.required name form) rest).ReadsBack depth (a, row) :=
  ⟨ha, hrest⟩

/-- A field with a default is written all the same. -/
theorem readsBack_withDefault {depth : Nat} {name : String} {form : Form α} {default : α}
    {rest : Fields ts} {a : α} {row : Row ts} (ha : form.ReadsBack depth a)
    (hrest : rest.ReadsBack depth row) :
    (Fields.cons (.withDefault name form default) rest).ReadsBack depth (a, row) :=
  ⟨ha, hrest⟩

/-- A field that may be absent is read back if its form reads back what is there, and does not write
it as `null`. -/
theorem readsBack_optional {depth : Nat} {name : String} {form : Form α} {rest : Fields ts}
    {a? : Option α} {row : Row ts} (hnull : ∀ a, (form.toJson a).mayBeNull = false)
    (ha : ∀ a ∈ a?, form.ReadsBack depth a) (hrest : rest.ReadsBack depth row) :
    (Fields.cons (.optional name form) rest).ReadsBack depth (a?, row) := by
  refine ⟨?_, hrest⟩
  cases a? with
  | none => rfl
  | some a => exact Form.readsBack_some (ha a rfl) (hnull a)

/-- A list that is left out when it is empty is read back if its elements are. -/
theorem readsBack_listField {depth : Nat} {name : String} {form : Form α} {rest : Fields ts}
    {items : List α} {row : Row ts} (hitems : ∀ a ∈ items, form.ReadsBack depth a)
    (hrest : rest.ReadsBack (depth + 1) row) :
    (Fields.cons (.list name form) rest).ReadsBack (depth + 1) (items, row) := by
  refine ⟨?_, hrest⟩
  cases items with
  | nil => rfl
  | cons a items => exact Form.readsBack_list hitems

end Fields

namespace Form

variable {ts : List Type}

/-- Records are answered by their fields. -/
theorem answers_record (name : String) {fields : Fields ts} {depth : Nat} {row : Row ts}
    {result : Except Json.Problem (Row ts)} (hnames : fields.names.Nodup)
    (h : fields.Answers depth row result) :
    (record name fields).Answers (depth + 1) (.object (fields.members row)) result := by
  refine ⟨fun level => Json.laidOut_opens level _ nofun, fun level gap rest hgap _ => ?_⟩
  obtain ⟨slots, hrun, hfill⟩ := Fields.memberRun_members fields row hnames h
  obtain ⟨after, htext, hread⟩ := Json.objectFrom_run hrun level rest
  rw [htext]
  show (Json.next? >>= _) (gap ++ '{' :: after) = _
  rw [bind_ok _ (Json.next?_gap hgap (by decide) _)]
  show (Json.advance >>= _) ('{' :: after) = _
  rw [bind_ok _ (Json.advance_cons _ _), bind_answer _ hread, ← hfill]
  -- A problem with a member is the answer, and else what the defaults make of the slots.
  cases slots with
  | error e => rfl
  | ok slots =>
    show (liftM (fields.fill slots) : Reader (Row ts)) rest = (fields.fill slots).map (·, rest)
    cases fields.fill slots <;> rfl

/-- Records are read back if their fields are. -/
theorem readsBack_record (name : String) {fields : Fields ts} {depth : Nat} {row : Row ts}
    (hnames : fields.names.Nodup) (h : fields.ReadsBack depth row) :
    (record name fields).ReadsBack (depth + 1) row :=
  (answers_record name hnames h.answers).readsBack

end Form

end Gamebook
