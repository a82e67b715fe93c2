import Gamebook.Proofs.Json.ScriptReading
import Gamebook.Proofs.Json.Spelling

/-!
# What is read is written so

Whatever a reader takes off the front of a text is the text of a script, with white space before it:
every part that it passes is one that the grammar knows. So what holds of scripts holds of all texts
that can be read.

## Key results

- `Written`, `WrittenItems`, `WrittenMembers`: whether a text begins with a script, with the
  elements of a list or with the members of an object
- `Covers`: whether a reader takes only scripts
- `written_list`, `written_object`: lists and objects are written if their parts are
- `covers_value`, `covers_skipValue`: any value that is read or passed over is written
-/

namespace Gamebook.Json

open Reading
open Script (itemsText membersText)

variable {α : Type} {first : Bool} {gap between text rest : List Char}

/-! ## Parts of a text -/

/-- Whether something stands in a text behind white space. -/
def Behind (P : List Char → Prop) (text : List Char) : Prop :=
  ∃ gap after, Gap gap ∧ P after ∧ text = gap ++ after

/-- More white space makes no difference. -/
theorem Behind.spaced {P : List Char → Prop} (h : Behind P text) (hgap : Gap gap) :
    Behind P (gap ++ text) := by
  obtain ⟨gap', after, hgap', hafter, rfl⟩ := h
  exact ⟨gap ++ gap', after, gap_append hgap hgap', hafter, (List.append_assoc ..).symm⟩

/-- There need not be any white space. -/
theorem behind_nil {P : List Char → Prop} (h : P text) : Behind P text :=
  ⟨[], text, gap_nil, h, rfl⟩

/-- Whether a text begins with a script. -/
def Written (rest : List Char) : List Char → Prop :=
  Behind fun text => ∃ script : Script, text = script.text ++ rest

/-- Whether a text begins with the elements of a list and its end. -/
def WrittenItems (first : Bool) (rest : List Char) : List Char → Prop :=
  Behind fun text => ∃ items, text = itemsText first items ++ ']' :: rest

/-- Whether a text begins with the members of an object and its end. -/
def WrittenMembers (first : Bool) (rest : List Char) : List Char → Prop :=
  Behind fun text => ∃ members, text = membersText first members ++ '}' :: rest

/-- A token is written as it stands. -/
theorem written_token (t : Token) (rest : List Char) : Written rest (t.text ++ rest) :=
  behind_nil ⟨.token t, rfl⟩

/-- A list ends where no element follows. -/
theorem writtenItems_nil (first : Bool) (rest : List Char) :
    WrittenItems first rest (']' :: rest) := behind_nil ⟨[], rfl⟩

/-- A brace ends the members. -/
theorem writtenMembers_nil (first : Bool) (rest : List Char) :
    WrittenMembers first rest ('}' :: rest) := behind_nil ⟨[], rfl⟩

/-- One more element of a list. -/
theorem WrittenItems.cons (h : WrittenItems false rest between) (hx : Written between text)
    (first : Bool) : WrittenItems first rest (comma first ++ text) := by
  obtain ⟨after, _, hafter, ⟨items, rfl⟩, rfl⟩ := h
  obtain ⟨before, _, hbefore, ⟨script, rfl⟩, rfl⟩ := hx
  refine behind_nil ⟨⟨⟨before, hbefore⟩, script, ⟨after, hafter⟩⟩ :: items, ?_⟩
  rw [Script.itemsText_cons]

/-- One more member of an object: the letters of its name, a colon and its value. -/
theorem WrittenMembers.cons {after colon : List Char} {letters : List Letter}
    (h : WrittenMembers false rest between) (hvalue : Written between after) (hcolon : Gap colon)
    (hgap : Gap gap) (first : Bool) :
    WrittenMembers first rest (comma first ++ (gap ++
      '"' :: (letters.flatMap Letter.text ++ '"' :: (colon ++ ':' :: after)))) := by
  obtain ⟨last, _, hlast, ⟨members, rfl⟩, rfl⟩ := h
  obtain ⟨before, _, hbefore, ⟨script, rfl⟩, rfl⟩ := hvalue
  refine behind_nil ⟨(⟨⟨gap, hgap⟩, letters, ⟨colon, hcolon⟩⟩,
    ⟨⟨before, hbefore⟩, script, ⟨last, hlast⟩⟩) :: members, ?_⟩
  rw [Script.membersText_cons]

/-- A list is written if its elements are. -/
theorem written_list (h : WrittenItems true rest text) : Written rest ('[' :: text) := by
  obtain ⟨gap, _, hgap, ⟨items, rfl⟩, rfl⟩ := h
  exact behind_nil ⟨.list ⟨gap, hgap⟩ items, (Script.text_list ⟨gap, hgap⟩ items rest).symm⟩

/-- An object is written if its members are. -/
theorem written_object (h : WrittenMembers true rest text) : Written rest ('{' :: text) := by
  obtain ⟨gap, _, hgap, ⟨members, rfl⟩, rfl⟩ := h
  exact behind_nil
    ⟨.object ⟨gap, hgap⟩ members, (Script.text_object ⟨gap, hgap⟩ members rest).symm⟩

/-! ## Readers -/

/-- Whether all that a reader takes is the text of a script. -/
def Covers (reader : Reader α) : Prop :=
  ∀ ⦃text a rest⦄, reader text = .ok (a, rest) → Written rest text

/-- A reader takes scripts if what it goes on with takes no more. -/
theorem Covers.bind {β : Type} {reader : Reader α} {f : α → Reader β} (h : Covers reader)
    (hf : ∀ {a text b rest}, f a text = .ok (b, rest) → text = rest) : Covers (reader >>= f) := by
  intro text b rest hread
  obtain ⟨a, between, ha, hb⟩ := of_bind_ok hread
  exact hf hb ▸ h ha

/-- A reader that looks at the next character first takes scripts, if it does so with white space
passed over. -/
theorem covers_next {f : Option Char → Reader α}
    (h : ∀ {c text a rest}, text.head? = c → f c text = .ok (a, rest) → Written rest text) :
    Covers (next? >>= f) := by
  intro text a rest hread
  obtain ⟨c, seen, hnext, hseen⟩ := of_bind_ok hread
  obtain ⟨rfl, gap, hgap, rfl⟩ := of_next?_ok hnext
  exact (h rfl hseen).spaced hgap

/-- A reader goes on behind the character that it has seen. -/
theorem of_advance_then_ok {f : PUnit → Reader α} {c : Char} {a : α}
    (h : (advance >>= f) (c :: text) = .ok (a, rest)) : f () text = .ok (a, rest) :=
  (bind_ok f (advance_cons c text)).symm.trans h

/-- A word that is read is a token. -/
theorem written_word (t : Token) {c : Char} {letters : List Char} (ht : t.text = c :: letters)
    (h : word letters text = .ok ((), rest)) : Written rest (c :: text) := by
  rw [of_word_ok h]
  have htoken := written_token t rest
  rwa [ht] at htoken

/-- So are the parts of a number. -/
theorem written_numberText {atEnd : Problem} {negative : Bool} {t : NumberText}
    (h : numberText atEnd negative text = .ok (t, rest)) :
    Written rest ((if negative then ['-'] else []) ++ text) := by
  obtain ⟨numeral, htext⟩ := of_numberText_ok h
  exact htext ▸ written_token (.number numeral) rest

/-- So is a number. -/
theorem written_number {n : Number} (h : number text = .ok (n, rest)) : Written rest text := by
  obtain ⟨numeral, rfl⟩ := of_number_ok h
  exact written_token (.number numeral) rest

/-- So are letters between quotes. -/
theorem written_letters (letters : List Letter) (rest : List Char) :
    Written rest ('"' :: (letters.flatMap Letter.text ++ '"' :: rest)) :=
  behind_nil ⟨.token (.string letters), (Script.text_string letters rest).symm⟩

/-- So is a string whose opening quote was seen. -/
theorem written_string {s : String} (h : string text = .ok (s, rest)) :
    Written rest ('"' :: text) := by
  obtain ⟨letters, rfl⟩ := of_string_ok h
  exact written_letters letters rest

/-! ## Lists -/

/-- Where another element follows, there is white space around the comma. -/
theorem of_hasElement_more (h : hasElement first text = .ok (true, rest)) :
    ∃ gap before, Gap gap ∧ Gap before ∧ text = gap ++ (comma first ++ (before ++ rest)) := by
  obtain ⟨c, seen, hnext, hseen⟩ := of_bind_ok h
  split at hseen
  next => exact absurd hseen (endedIn_ne_ok _)
  next => cases of_pure_ok hseen
  next c _ =>
    obtain ⟨gap, after, hgap, rfl, htext⟩ := of_next?_some hnext
    split at hseen
    next hfirst =>
      -- No comma stands before the first element, so all white space is passed over at once.
      obtain ⟨-, rfl⟩ := Prod.mk.inj (Except.ok.inj hseen)
      exact ⟨gap, [], hgap, gap_nil, hfirst ▸ htext⟩
    next hfirst =>
      -- A later element stands behind a comma, and both may have white space before them.
      obtain rfl := Bool.eq_false_iff.2 hfirst
      split at hseen
      next hc =>
        obtain ⟨d, between, hnext', hmore⟩ := of_bind_ok (of_advance_then_ok hseen)
        split at hmore
        next => exact absurd hmore (endedIn_ne_ok _)
        next => exact absurd hmore (breached_ne_ok _)
        next =>
          obtain ⟨-, rfl⟩ := Prod.mk.inj (Except.ok.inj hmore)
          obtain ⟨-, before, hbefore, rfl⟩ := of_next?_ok hnext'
          subst hc
          exact ⟨gap, before, hgap, hbefore, htext⟩
      next => exact absurd hseen (breached_ne_ok _)

/-- Where none follows, the list ends. -/
theorem of_hasElement_end (h : hasElement first text = .ok (false, rest)) :
    ∃ gap after, Gap gap ∧ rest = ']' :: after ∧ text = gap ++ ']' :: after := by
  obtain ⟨c, seen, hnext, hseen⟩ := of_bind_ok h
  split at hseen
  next => exact absurd hseen (endedIn_ne_ok _)
  next =>
    obtain ⟨-, rfl⟩ := Prod.mk.inj (Except.ok.inj hseen)
    exact of_next?_some hnext
  -- A bracket ends the list, and nothing else that is seen here does.
  next =>
    split at hseen
    next => cases of_pure_ok hseen
    next =>
      split at hseen
      next =>
        obtain ⟨_, _, -, hread⟩ := of_bind_ok hseen
        obtain ⟨d, _, -, hmore⟩ := of_bind_ok hread
        split at hmore
        next => exact absurd hmore (endedIn_ne_ok _)
        next => exact absurd hmore (breached_ne_ok _)
        next => cases of_pure_ok hmore
      next => exact absurd hseen (breached_ne_ok _)

/-- A list is closed by a bracket, behind white space. -/
theorem of_closeList_ok (h : closeList text = .ok ((), rest)) :
    ∃ gap, Gap gap ∧ text = gap ++ ']' :: rest := by
  obtain ⟨c, seen, hnext, hseen⟩ := of_bind_ok h
  split at hseen
  next => exact absurd hseen (endedIn_ne_ok _)
  next =>
    -- The bracket is there.
    obtain ⟨gap, after, hgap, rfl, htext⟩ := of_next?_some hnext
    obtain rfl := of_advance_ok hseen
    exact ⟨gap, hgap, htext⟩
  next =>
    -- A comma is a problem, whatever follows it.
    obtain ⟨_, _, -, hread⟩ := of_bind_ok hseen
    obtain ⟨_, _, -, hmore⟩ := of_bind_ok hread
    split at hmore <;> exact absurd hmore (breached_ne_ok _)
  next => exact absurd hseen (breached_ne_ok _)

/-- A list goes on with an element behind the comma. -/
theorem WrittenItems.of_more {seen : List Char} (h : WrittenItems false rest between)
    (hx : Written between seen) (hmore : hasElement first text = .ok (true, seen)) :
    WrittenItems first rest text := by
  obtain ⟨gap, before, hgap, hbefore, rfl⟩ := of_hasElement_more hmore
  exact (h.cons (hx.spaced hbefore) first).spaced hgap

/-- A list that ends where no element follows. -/
theorem writtenItems_of_end {seen : List Char} (hend : hasElement first text = .ok (false, seen))
    (hclose : closeList seen = .ok ((), rest)) : WrittenItems first rest text := by
  obtain ⟨gap, after, hgap, rfl, rfl⟩ := of_hasElement_end hend
  rw [closeList_end] at hclose
  obtain ⟨-, rfl⟩ := Prod.mk.inj (Except.ok.inj hclose)
  exact (writtenItems_nil first _).spaced hgap

/-- Nothing follows in a list that has ended. -/
theorem WrittenItems.of_ended {after : List Char} (h : WrittenItems false rest (']' :: after)) :
    rest = after := by
  obtain ⟨gap, _, hgap, ⟨items, rfl⟩, htext⟩ := h
  -- The text begins with the bracket, so neither white space nor a comma stands there.
  cases gap with
  | nil =>
    cases items with
    | nil => exact (List.cons.inj htext).2.symm
    | cons x items =>
      rw [Script.itemsText_cons] at htext
      exact absurd (List.cons.inj htext).1 (by decide)
  | cons c gap =>
    -- The bracket is no white space.
    have hc := hgap c List.mem_cons_self
    rw [← (List.cons.inj htext).1] at hc
    exact absurd hc (by decide)

/-- A list that is read is written, if its elements are. -/
theorem writtenItems_listFrom {item : Reader α} (hitem : Covers item) {items : List α}
    (h : listFrom first item text = .ok (items, rest)) : WrittenItems first rest text := by
  -- The elements are read one by one, whatever fuel is left.
  have helements : ∀ (fuel : Nat) (first : Bool) (text : List Char) (items : List α) (last),
      elements item fuel first text = .ok (items, last) → closeList last = .ok ((), rest) →
      WrittenItems first rest text := by
    intro fuel
    induction fuel with
    -- No fuel is no success, so nothing is to be shown of it.
    | zero => exact fun first text items last h _ => absurd h (endedIn_ne_ok _)
    | succ fuel ih =>
      intro first text items last h hclose
      obtain ⟨more, seen, hmore, hread⟩ := of_bind_ok h
      cases more with
      | true =>
        obtain ⟨_, after, hx, hread⟩ := of_bind_ok hread
        obtain ⟨_, _, hothers, hread⟩ := of_bind_ok hread
        obtain ⟨-, rfl⟩ := Prod.mk.inj (Except.ok.inj hread)
        -- Another element is read, and then all that follow it.
        exact (ih _ _ _ _ hothers hclose).of_more (hitem hx) hmore
      | false =>
        obtain ⟨-, rfl⟩ := Prod.mk.inj (Except.ok.inj hread)
        exact writtenItems_of_end hmore hclose
  obtain ⟨_, _, hget, hread⟩ := of_bind_ok h
  obtain ⟨rfl, rfl⟩ := Prod.mk.inj (Except.ok.inj hget)
  obtain ⟨_, _, hitems, hread⟩ := of_bind_ok hread
  obtain ⟨_, _, hclose, hread⟩ := of_bind_ok hread
  obtain ⟨-, rfl⟩ := Prod.mk.inj (Except.ok.inj hread)
  -- The reader gives itself as much fuel as there is text.
  exact helements _ _ _ _ _ hitems hclose

/-! ## Objects -/

/-- A colon may stand behind white space. -/
theorem of_colon_ok (h : colon text = .ok ((), rest)) :
    ∃ gap, Gap gap ∧ text = gap ++ ':' :: rest := by
  obtain ⟨c, seen, hnext, hseen⟩ := of_bind_ok h
  split at hseen
  next => exact absurd hseen (endedIn_ne_ok _)
  next =>
    obtain ⟨gap, after, hgap, rfl, htext⟩ := of_next?_some hnext
    obtain rfl := of_advance_ok hseen
    exact ⟨gap, hgap, htext⟩
  next => exact absurd hseen (breached_ne_ok _)

/-- Where another member follows, there is white space around the comma, and a quote. -/
theorem of_hasMember_more (h : hasMember first text = .ok (true, rest)) :
    ∃ gap before, Gap gap ∧ Gap before ∧
      text = gap ++ (comma first ++ (before ++ '"' :: rest)) := by
  obtain ⟨c, seen, hnext, hseen⟩ := of_bind_ok h
  split at hseen
  next => exact absurd hseen (endedIn_ne_ok _)
  next => cases of_pure_ok hseen
  next c _ =>
    obtain ⟨gap, after, hgap, rfl, htext⟩ := of_next?_some hnext
    split at hseen
    next hfirst =>
      obtain rfl := hfirst
      -- Only a name may come next, and a name opens with a quote.
      split at hseen
      next hc =>
        obtain ⟨-, rfl⟩ := Prod.mk.inj (Except.ok.inj (of_advance_then_ok hseen))
        exact ⟨gap, [], hgap, gap_nil, hc ▸ htext⟩
      next => exact absurd hseen (breached_ne_ok _)
    next hfirst =>
      obtain rfl := Bool.eq_false_iff.2 hfirst
      split at hseen
      next hc =>
        -- Behind the comma a name must follow.
        obtain ⟨d, between, hnext', hmore⟩ := of_bind_ok (of_advance_then_ok hseen)
        split at hmore
        next => exact absurd hmore (endedIn_ne_ok _)
        next =>
          obtain ⟨before, after', hbefore, rfl, rfl⟩ := of_next?_some hnext'
          obtain ⟨-, rfl⟩ := Prod.mk.inj (Except.ok.inj (of_advance_then_ok hmore))
          subst hc
          exact ⟨gap, before, hgap, hbefore, htext⟩
        next => exact absurd hmore (breached_ne_ok _)
        next => exact absurd hmore (breached_ne_ok _)
      next => exact absurd hseen (breached_ne_ok _)

/-- Where none follows, the object ends. -/
theorem of_hasMember_end (h : hasMember first text = .ok (false, rest)) :
    ∃ gap after, Gap gap ∧ rest = '}' :: after ∧ text = gap ++ '}' :: after := by
  have hpure : ∀ {text rest : List Char},
      (advance >>= fun _ => (pure true : Reader Bool)) text ≠ .ok (false, rest) :=
    bind_ne_ok fun _ _ h => by cases of_pure_ok h
  obtain ⟨c, seen, hnext, hseen⟩ := of_bind_ok h
  split at hseen
  -- The text has ended.
  next => exact absurd hseen (endedIn_ne_ok _)
  next =>
    -- The object ends here.
    obtain ⟨-, rfl⟩ := Prod.mk.inj (Except.ok.inj hseen)
    exact of_next?_some hnext
  next =>
    -- A member follows, at once or behind a comma, or there is a problem.
    split at hseen
    next =>
      split at hseen
      next => exact absurd hseen hpure
      next => exact absurd hseen (breached_ne_ok _)
    next =>
      split at hseen
      next =>
        obtain ⟨_, _, -, hread⟩ := of_bind_ok hseen
        obtain ⟨d, _, -, hmore⟩ := of_bind_ok hread
        split at hmore
        next => exact absurd hmore (endedIn_ne_ok _)
        next => exact absurd hmore hpure
        next => exact absurd hmore (breached_ne_ok _)
        next => exact absurd hmore (breached_ne_ok _)
      next => exact absurd hseen (breached_ne_ok _)

/-- Whether a reader of members takes a colon and a script. -/
def CoversStep {σ : Type} (step : σ → String → Reader σ) : Prop :=
  ∀ ⦃s name text next rest⦄, step s name text = .ok (next, rest) →
    ∃ gap after, Gap gap ∧ text = gap ++ ':' :: after ∧ Written rest after

/-- A colon and what a reader takes behind it. -/
theorem written_colon {reader : Unit → Reader α} (hreader : Covers (reader ())) {a : α}
    (h : (colon >>= reader) text = .ok (a, rest)) :
    ∃ gap after, Gap gap ∧ text = gap ++ ':' :: after ∧ Written rest after := by
  obtain ⟨_, after, hcolon, hread⟩ := of_bind_ok h
  obtain ⟨gap, hgap, htext⟩ := of_colon_ok hcolon
  exact ⟨gap, after, hgap, htext, hreader hread⟩

/-- The members of an object that is read are written, if their values are. -/
theorem writtenMembers_objectFrom {σ : Type} {step : σ → String → Reader σ}
    (hstep : CoversStep step) {s last : σ} (h : objectFrom step s text = .ok (last, rest)) :
    WrittenMembers true rest text := by
  -- The members are read one by one, whatever fuel is left.
  have hmembers : ∀ (fuel : Nat) (first : Bool) (s : σ) (text : List Char),
      members step fuel first s text = .ok (last, rest) → WrittenMembers first rest text := by
    intro fuel
    induction fuel with
    | zero => exact fun first s text h => absurd h (endedIn_ne_ok _)
    | succ fuel ih =>
      intro first s text h
      unfold members at h
      obtain ⟨more, seen, hmore, hread⟩ := of_bind_ok h
      cases more with
      | true =>
        obtain ⟨name, _, hname, hread⟩ := of_bind_ok hread
        obtain ⟨next, between, hmember, hothers⟩ := of_bind_ok hread
        -- The parts of the member are put together again, from the comma to the value.
        obtain ⟨gap, before, hgap, hbefore, rfl⟩ := of_hasMember_more hmore
        obtain ⟨letters, rfl⟩ := of_string_ok hname
        obtain ⟨colon, after, hcolon, rfl, hvalue⟩ := hstep hmember
        exact ((ih _ _ _ hothers).cons hvalue hcolon hbefore first).spaced hgap
      | false =>
        -- There is only the white space before the brace.
        obtain ⟨gap, after, hgap, rfl, htext⟩ := of_hasMember_end hmore
        have hend : (pure s : Reader σ) after = .ok (last, rest) := of_advance_then_ok hread
        obtain ⟨-, rfl⟩ := Prod.mk.inj (Except.ok.inj hend)
        exact htext ▸ (writtenMembers_nil first _).spaced hgap
  obtain ⟨_, _, hget, hread⟩ := of_bind_ok h
  obtain ⟨rfl, rfl⟩ := Prod.mk.inj (Except.ok.inj hget)
  exact hmembers _ _ _ _ hread

/-! ## Any values -/

/-- Any value that is read is written. -/
theorem covers_value (depth : Nat) : Covers (value depth) := by
  -- One case for each character that a value begins with, given what is read one level down.
  have hvalue : ∀ depth, (∀ below, depth = below + 1 → Covers (value below)) →
      Covers (value depth) := by
    intro depth hbelow
    unfold value
    refine covers_next fun {c text j rest} hc h => ?_
    split at h
    -- The text has ended.
    next => exact absurd h (endedIn_ne_ok _)
    next =>
      -- The letter n begins the word for nothing.
      obtain ⟨after, rfl⟩ := List.head?_eq_some_iff.1 hc
      obtain ⟨_, hword, -⟩ := of_bind_pure_ok (of_advance_then_ok h)
      exact written_word .null rfl hword
    next =>
      -- The letter t begins a truth value.
      obtain ⟨after, rfl⟩ := List.head?_eq_some_iff.1 hc
      obtain ⟨_, hword, -⟩ := of_bind_pure_ok (of_advance_then_ok h)
      exact written_word (.bool true) rfl hword
    next =>
      -- And so does f.
      obtain ⟨after, rfl⟩ := List.head?_eq_some_iff.1 hc
      obtain ⟨_, hword, -⟩ := of_bind_pure_ok (of_advance_then_ok h)
      exact written_word (.bool false) rfl hword
    next =>
      -- A quote begins a string.
      obtain ⟨after, rfl⟩ := List.head?_eq_some_iff.1 hc
      obtain ⟨_, hstring, -⟩ := of_bind_pure_ok (of_advance_then_ok h)
      exact written_string hstring
    next =>
      -- A bracket begins a list, whose elements are one level down.
      obtain ⟨after, rfl⟩ := List.head?_eq_some_iff.1 hc
      split at h
      next => exact absurd h (breached_ne_ok _)
      next below =>
        obtain ⟨_, hlist, -⟩ := of_bind_pure_ok (of_advance_then_ok h)
        exact written_list (writtenItems_listFrom (hbelow below rfl) hlist)
    next =>
      -- A brace begins an object, whose values are one level down.
      obtain ⟨after, rfl⟩ := List.head?_eq_some_iff.1 hc
      split at h
      next => exact absurd h (breached_ne_ok _)
      next below =>
        obtain ⟨_, hobject, -⟩ := of_bind_pure_ok (of_advance_then_ok h)
        have hmember : CoversStep fun (read : List (String × Json)) name => do
            colon
            let v ← value below
            return (name, v) :: read :=
          fun _ _ _ _ _ h => written_colon ((hbelow below rfl).bind rest_of_pure_ok) h
        exact written_object (writtenMembers_objectFrom hmember hobject)
    next =>
      -- Anything else is a number, or no value.
      split at h
      next =>
        obtain ⟨_, hnumber, -⟩ := of_bind_pure_ok h
        exact written_number hnumber
      next => exact absurd h (breached_ne_ok _)
  induction depth with
  | zero => exact hvalue 0 fun below h => absurd h (Nat.succ_ne_zero below).symm
  | succ depth ih => exact hvalue _ fun below h => (Nat.succ.inj h) ▸ ih

/-! ## Values that nobody asked for -/

/-- Whether all that is passed over with some fuel is written: a value, and the elements and the
members that follow a comma. -/
private structure CoversSkipped (fuel : Nat) : Prop where
  value : Covers (skipValueWithin fuel)
  elements : ∀ {text rest}, skipElements fuel text = .ok ((), rest) →
    ∀ first, WrittenItems first rest (comma first ++ text)
  members : ∀ {text rest}, skipMembers fuel text = .ok ((), rest) →
    ∀ first, WrittenMembers first rest (comma first ++ text)

/-- What is skipped is written as a value, if its parts are. -/
private theorem CoversSkipped.skipValueWithin {fuel : Nat} (h : CoversSkipped fuel) :
    Covers (skipValueWithin (fuel + 1)) := by
  unfold Json.skipValueWithin
  -- As for a value that is read, but the first element or member is looked for here.
  refine covers_next fun {c text _ rest} hc hread => ?_
  split at hread
  next => exact absurd hread (endedIn_ne_ok _)
  next =>
    obtain ⟨after, rfl⟩ := List.head?_eq_some_iff.1 hc
    exact written_word .null rfl (of_advance_then_ok hread)
  next =>
    obtain ⟨after, rfl⟩ := List.head?_eq_some_iff.1 hc
    exact written_word (.bool true) rfl (of_advance_then_ok hread)
  next =>
    obtain ⟨after, rfl⟩ := List.head?_eq_some_iff.1 hc
    exact written_word (.bool false) rfl (of_advance_then_ok hread)
  next =>
    obtain ⟨after, rfl⟩ := List.head?_eq_some_iff.1 hc
    obtain ⟨letters, rfl⟩ := of_skipString_ok (of_advance_then_ok hread)
    exact written_letters letters rest
  next =>
    obtain ⟨after, rfl⟩ := List.head?_eq_some_iff.1 hc
    obtain ⟨d, seen, hnext, hseen⟩ := of_bind_ok (of_advance_then_ok hread)
    obtain ⟨hd, gap, hgap, rfl⟩ := of_next?_ok hnext
    refine written_list (.spaced ?_ hgap)
    split at hseen
    next => exact absurd hseen (endedIn_ne_ok _)
    next =>
      obtain ⟨_, rfl⟩ := List.head?_eq_some_iff.1 hd.symm
      obtain rfl := of_advance_ok hseen
      exact writtenItems_nil true _
    next => exact h.elements hseen true
  next =>
    obtain ⟨after, rfl⟩ := List.head?_eq_some_iff.1 hc
    obtain ⟨d, seen, hnext, hseen⟩ := of_bind_ok (of_advance_then_ok hread)
    obtain ⟨hd, gap, hgap, rfl⟩ := of_next?_ok hnext
    refine written_object (.spaced ?_ hgap)
    split at hseen
    next => exact absurd hseen (endedIn_ne_ok _)
    next =>
      obtain ⟨_, rfl⟩ := List.head?_eq_some_iff.1 hd.symm
      obtain rfl := of_advance_ok hseen
      exact writtenMembers_nil true _
    next => exact h.members hseen true
  next =>
    obtain ⟨after, rfl⟩ := List.head?_eq_some_iff.1 hc
    obtain ⟨_, hnumber, -⟩ := of_map_ok (f := fun _ => ()) (of_advance_then_ok hread)
    exact written_numberText hnumber
  next =>
    split at hread
    next =>
      obtain ⟨_, hnumber, -⟩ := of_map_ok (f := fun _ => ()) hread
      exact written_numberText hnumber
    next => exact absurd hread (breached_ne_ok _)

/-- What is skipped as elements is written as elements, if its parts are. -/
private theorem CoversSkipped.skipElements {fuel : Nat} (h : CoversSkipped fuel)
    (hread : Json.skipElements (fuel + 1) text = .ok ((), rest)) (first : Bool) :
    WrittenItems first rest (comma first ++ text) := by
  unfold Json.skipElements at hread
  obtain ⟨_, between, hx, hread⟩ := of_bind_ok hread
  obtain ⟨c, seen, hnext, hseen⟩ := of_bind_ok hread
  obtain ⟨hc, gap, hgap, rfl⟩ := of_next?_ok hnext
  refine WrittenItems.cons (.spaced ?_ hgap) (h.value hx) first
  split at hseen
  next => exact absurd hseen (endedIn_ne_ok _)
  next =>
    -- The list ends after the element.
    obtain ⟨_, rfl⟩ := List.head?_eq_some_iff.1 hc.symm
    obtain rfl := of_advance_ok hseen
    exact writtenItems_nil false _
  next =>
    -- A comma, and the elements that follow it.
    obtain ⟨after, rfl⟩ := List.head?_eq_some_iff.1 hc.symm
    exact h.elements (of_advance_then_ok hseen) false
  next => exact absurd hseen (breached_ne_ok _)

/-- What is skipped as members is written as members, if its parts are. -/
private theorem CoversSkipped.skipMembers {fuel : Nat} (h : CoversSkipped fuel)
    (hread : Json.skipMembers (fuel + 1) text = .ok ((), rest)) (first : Bool) :
    WrittenMembers first rest (comma first ++ text) := by
  unfold Json.skipMembers at hread
  obtain ⟨c, seen, hnext, hseen⟩ := of_bind_ok hread
  split at hseen
  next => exact absurd hseen (endedIn_ne_ok _)
  next =>
    obtain ⟨before, after, hbefore, rfl, rfl⟩ := of_next?_some hnext
    obtain ⟨_, _, hname, hseen⟩ := of_bind_ok (of_advance_then_ok hseen)
    obtain ⟨_, _, hmark, hseen⟩ := of_bind_ok hseen
    obtain ⟨_, _, hvalue, hseen⟩ := of_bind_ok hseen
    obtain ⟨d, last, hnext', hlast⟩ := of_bind_ok hseen
    -- The name and the value are put together again.
    obtain ⟨letters, rfl⟩ := of_skipString_ok hname
    obtain ⟨colon, hcolon, rfl⟩ := of_colon_ok hmark
    obtain ⟨hd, gap, hgap, rfl⟩ := of_next?_ok hnext'
    refine WrittenMembers.cons (.spaced ?_ hgap) (h.value hvalue) hcolon hbefore first
    split at hlast
    next => exact absurd hlast (endedIn_ne_ok _)
    next =>
      obtain ⟨_, rfl⟩ := List.head?_eq_some_iff.1 hd.symm
      obtain rfl := of_advance_ok hlast
      exact writtenMembers_nil false _
    next =>
      obtain ⟨after, rfl⟩ := List.head?_eq_some_iff.1 hd.symm
      exact h.members (of_advance_then_ok hlast) false
    next => exact absurd hlast (breached_ne_ok _)
  next => exact absurd hseen (breached_ne_ok _)

/-- Whatever fuel there is, what is skipped is written as a value. -/
private theorem coversSkipped (fuel : Nat) : CoversSkipped fuel := by
  -- Values, elements and members are skipped with the fuel that is left, so all three go together.
  induction fuel with
  | zero =>
    exact ⟨fun _ _ _ h => absurd h (endedIn_ne_ok _), fun h => absurd h (endedIn_ne_ok _),
      fun h => absurd h (endedIn_ne_ok _)⟩
  | succ fuel ih => exact ⟨ih.skipValueWithin, ih.skipElements, ih.skipMembers⟩

/-- A value that is passed over is written. -/
theorem covers_skipValue : Covers skipValue := by
  intro text _ rest h
  obtain ⟨_, _, hget, hread⟩ := of_bind_ok h
  obtain ⟨rfl, rfl⟩ := Prod.mk.inj (Except.ok.inj hget)
  exact (coversSkipped _).value hread

end Gamebook.Json
