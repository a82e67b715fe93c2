import Gamebook.Proofs.Json.Floats
import Gamebook.Proofs.Play.SavedText

/-!
# Doubles in a saved game

The text of any snapshot is read as a snapshot again, unless some flag holds a double that is not
finite: its text is `null`, which no flag can have. A finite double comes back as a double, though
not always as the same one: the digits that are read are rounded before they are scaled. It is the
same one if it stands for a number with few digits, so that nothing is rounded twice. Everything
else comes back as it was, and leap seconds as their stamps tell them.

## Key results

- `FlagValue.reread`: what the text of a flag value is read as
- `FlagValue.reread_float` / `FlagValue.reread_notFinite`: what becomes of doubles
- `Snapshot.parse_pretty_eq`: what the text of a snapshot is read as
- `Snapshot.parse_pretty_floats`: so what becomes of the doubles of a state that is saved
-/

namespace Gamebook

open Decimal (isFinite FewDigits)

/-! ## Flag values -/

namespace FlagValue

variable {x : Float}

/-- A finite double stays a double, and stays the same if it stands for a number with few digits. -/
theorem answers_float (hx : isFinite x = true) :
    ∃ y, (FewDigits x → y = x) ∧
      ∀ depth, form.Answers depth (form.toJson (float x)) (.ok (float y)) := by
  obtain ⟨y, hsame, hread⟩ := Form.answers_any_float hx
  exact ⟨y, hsame, fun depth => (hread depth).check ofJson toJson⟩

/-- A double that is not finite is lost, and what stands for it is refused. -/
theorem answers_notFinite (hx : isFinite x = false) (depth : Nat) :
    form.Answers depth (form.toJson (float x)) (.error (.mismatch (.noCase "FlagValue"))) :=
  (Form.answers_any_notFinite hx depth).check ofJson toJson

/-- What the text of a flag value is read as. -/
def reread (v : FlagValue) : Except Json.Problem FlagValue := form.parse (form.pretty v)

/-- Whatever is not a double is read as it was. -/
theorem reread_of_not_float {v : FlagValue} (hv : v.isFloat = false) : v.reread = .ok v :=
  Form.parse_pretty (readsBack_form _ v hv)

/-- A finite double is read as a double, and as the same one if it stands for a number with few
digits. -/
theorem reread_float (hx : isFinite x = true) :
    ∃ y, (FewDigits x → y = x) ∧ reread (float x) = .ok (float y) := by
  obtain ⟨y, hsame, hread⟩ := answers_float hx
  exact ⟨y, hsame, (hread Json.maxDepth).parse_pretty⟩

/-- The text of a double that is not finite is refused. -/
theorem reread_notFinite (hx : isFinite x = false) :
    reread (float x) = .error (.mismatch (.noCase "FlagValue")) :=
  (answers_notFinite hx Json.maxDepth).parse_pretty

/-- A flag value is read, or it is a double that is not finite. -/
theorem exists_reread_or (v : FlagValue) :
    (∃ w, v.reread = .ok w) ∨ ∃ x, v = float x ∧ isFinite x = false := by
  cases hv : v.isFloat with
  | false => exact .inl ⟨v, reread_of_not_float hv⟩
  | true =>
    cases v with
    | float x =>
      cases hx : isFinite x with
      | true =>
        obtain ⟨y, -, hread⟩ := reread_float hx
        exact .inl ⟨float y, hread⟩
      | false => exact .inr ⟨x, rfl, hx⟩
    | _ => cases hv

/-- A flag value is read alike wherever it stands. -/
theorem answers_form (depth : Nat) (v : FlagValue) :
    form.Answers depth (form.toJson v) v.reread := by
  -- The answer does not depend on the nesting, so it is the one to the text of the value alone.
  suffices hsame : ∃ result, ∀ depth, form.Answers depth (form.toJson v) result by
    obtain ⟨result, hresult⟩ := hsame
    have hread : v.reread = result := (hresult Json.maxDepth).parse_pretty
    rw [hread]
    exact hresult depth
  cases hv : v.isFloat with
  | false => exact ⟨.ok v, fun depth => (readsBack_form depth v hv).answers⟩
  | true =>
    cases v with
    | float x =>
      cases hx : isFinite x with
      | true =>
        obtain ⟨y, -, hread⟩ := answers_float hx
        exact ⟨.ok (float y), hread⟩
      | false => exact ⟨_, answers_notFinite hx⟩
    | _ => cases hv

end FlagValue

/-! ## Snapshots -/

namespace Snapshot

/-- What the text of a flag is read as. -/
def rereadFlag (flag : String × FlagValue) : Except Json.Problem (String × FlagValue) :=
  flag.2.reread.map (flag.1, ·)

/-- What the text of a snapshot is read as, if all of its flags can be read. -/
def reread (snapshot : Snapshot) : Except Json.Problem Snapshot :=
  (snapshot.flags.mapM rereadFlag).map snapshot.toldWith

/-- The text of a snapshot is read as what it tells. -/
theorem parse_pretty_eq (snapshot : Snapshot) :
    form.parse (form.pretty snapshot) = snapshot.reread := by
  have hflags : (Form.list (.pair .text FlagValue.form)).Answers 126
      ((Form.list (.pair .text FlagValue.form)).toJson snapshot.flags)
      (snapshot.flags.mapM rereadFlag) :=
    Form.answers_list fun flag _ =>
      Form.answers_pair (Form.readsBack_text 124 flag.1).answers (flag.2.answers_form 124)
  exact (answers_form 124 snapshot hflags).parse_pretty

/-! ## States -/

variable {α β ε : Type} {f : α → Except ε β} {items : List α}

/-- What never fails on the items of a list does not fail on the list. -/
private theorem exists_mapM_eq_ok (h : ∀ a ∈ items, ∃ b, f a = .ok b) :
    ∃ results, items.mapM f = .ok results := by
  induction items with
  | nil => exact ⟨[], rfl⟩
  | cons a items ih =>
    obtain ⟨b, hb⟩ := h a List.mem_cons_self
    obtain ⟨results, hresults⟩ := ih fun a ha => h a (List.mem_cons_of_mem _ ha)
    refine ⟨b :: results, ?_⟩
    rw [List.mapM_cons, hb, Reading.then_ok, hresults]
    rfl

/-- What fails on some item, and always in the same way, fails on the list. -/
private theorem mapM_eq_error {e : ε} (h : ∀ a ∈ items, (∃ b, f a = .ok b) ∨ f a = .error e)
    (hsome : ∃ a ∈ items, f a = .error e) : items.mapM f = .error e := by
  induction items with
  | nil =>
    obtain ⟨a, ha, -⟩ := hsome
    exact absurd ha List.not_mem_nil
  | cons first items ih =>
    rw [List.mapM_cons]
    rcases h first List.mem_cons_self with ⟨b, hb⟩ | hfirst
    · -- The item that it fails on comes later.
      have hrest : items.mapM f = .error e := by
        apply ih fun a ha => h a (List.mem_cons_of_mem _ ha)
        obtain ⟨a, ha, hfails⟩ := hsome
        rcases List.mem_cons.1 ha with rfl | ha
        · rw [hb] at hfails
          cases hfails
        · exact ⟨a, ha, hfails⟩
      rw [hb, Reading.then_ok, hrest]
      rfl
    · rw [hfirst]
      rfl

variable {s : State}

/-- A flag is read if what is under it is. -/
private theorem rereadFlag_eq {flag : String × FlagValue} {result : Except Json.Problem FlagValue}
    (h : flag.2.reread = result) : rereadFlag flag = result.map (flag.1, ·) :=
  congrArg (Except.map (flag.1, ·)) h

/-- The text of a state is read if its doubles are finite, and under each flag stands what its value
is read as. -/
theorem exists_reread_capture (log : List Step)
    (hfinite : ∀ flag x, s.flag? flag = some (.float x) → isFinite x = true) :
    ∃ snapshot, (capture s log).reread = .ok snapshot ∧
      (∀ flag, (s.flag? flag).mapM FlagValue.reread = .ok (snapshot.state.flag? flag)) ∧
      { snapshot.state with flags := s.flags } =
        { s with startTime := s.startTime.stamped, lastSaveTime := s.lastSaveTime.stamped } ∧
      snapshot.log = log.map Step.stamped := by
  have hread : ∀ flag ∈ s.flags.entries, ∃ other, rereadFlag flag = .ok other := by
    intro flag hflag
    rcases flag.2.exists_reread_or with ⟨v, hv⟩ | ⟨x, hx, hinfinite⟩
    · exact ⟨(flag.1, v), rereadFlag_eq hv⟩
    -- A double that is not finite would be found under its flag.
    · have hfound : s.flag? flag.1 = some (.float x) := hx ▸ Keyed.get?_of_mem s.flags hflag
      rw [hfinite flag.1 x hfound] at hinfinite
      cases hinfinite
  obtain ⟨flags, hflags⟩ := exists_mapM_eq_ok hread
  refine ⟨(capture s log).toldWith flags, ?_, s.flags.get?_ofList_mapM hflags, ?_, rfl⟩
  · show (s.flags.entries.mapM rereadFlag).map _ = _
    rw [hflags]
    rfl
  · unfold toldWith capture Snapshot.state
    simp only [Keyed.ofList_entries, NameSet.ofNames_keys]

/-- The text of a state is refused if one of its doubles is not finite. -/
theorem reread_capture_eq_error (log : List Step) {flag : String} {x : Float}
    (hflag : s.flag? flag = some (.float x)) (hinfinite : isFinite x = false) :
    (capture s log).reread = .error (.mismatch (.noCase "FlagValue")) := by
  have hrefused : s.flags.entries.mapM rereadFlag = .error (.mismatch (.noCase "FlagValue")) := by
    apply mapM_eq_error
    · intro flag _
      rcases flag.2.exists_reread_or with ⟨v, hv⟩ | ⟨x, hx, hinfinite⟩
      · exact .inl ⟨(flag.1, v), rereadFlag_eq hv⟩
      · have hread : flag.2.reread = _ := hx ▸ FlagValue.reread_notFinite hinfinite
        exact .inr (rereadFlag_eq hread)
    · have hread : (flag, FlagValue.float x).2.reread = _ := FlagValue.reread_notFinite hinfinite
      exact ⟨(flag, .float x), Keyed.mem_of_get? s.flags hflag, rereadFlag_eq hread⟩
  show (s.flags.entries.mapM rereadFlag).map _ = _
  rw [hrefused]
  rfl

/-- What becomes of a state and its log when they are saved as text. If no flag holds an infinity or
"not a number", the text is read, and every flag holds a value of the same kind: a double for a
double, which is the same one if it stands for a number with few digits, and any other value as it
was. The rest of the state and the log are kept, their times as their stamps tell them. If some flag
holds an infinity or "not a number", the text is refused. -/
theorem parse_pretty_floats (s : State) (log : List Step) :
    ((∀ flag x, s.flag? flag = some (.float x) → isFinite x = true) →
      ∃ snapshot, form.parse (form.pretty (capture s log)) = .ok snapshot ∧
        (∀ flag, s.flag? flag = none → snapshot.state.flag? flag = none) ∧
        (∀ flag v, s.flag? flag = some v → v.isFloat = false →
          snapshot.state.flag? flag = some v) ∧
        (∀ flag x, s.flag? flag = some (.float x) →
          ∃ y, snapshot.state.flag? flag = some (.float y) ∧ (FewDigits x → y = x)) ∧
        { snapshot.state with flags := s.flags } =
          { s with startTime := s.startTime.stamped, lastSaveTime := s.lastSaveTime.stamped } ∧
        snapshot.log = log.map Step.stamped) ∧
    ((∃ flag x, s.flag? flag = some (.float x) ∧ isFinite x = false) →
      form.parse (form.pretty (capture s log)) = .error (.mismatch (.noCase "FlagValue"))) := by
  rw [parse_pretty_eq]
  constructor
  · intro hfinite
    obtain ⟨snapshot, hread, hflags, hstate, hlog⟩ := exists_reread_capture log hfinite
    -- What is under a flag afterwards is what the value before is read as.
    have hfound : ∀ {flag v w}, s.flag? flag = some v → v.reread = .ok w →
        snapshot.state.flag? flag = some w := by
      intro flag v w hflag hv
      have hafter := hflags flag
      rw [hflag] at hafter
      change v.reread.map some = _ at hafter
      rw [hv] at hafter
      exact (Except.ok.inj hafter).symm
    refine ⟨snapshot, hread, ?_, ?_, ?_, hstate, hlog⟩
    · intro flag hnone
      have hafter := hflags flag
      rw [hnone] at hafter
      exact (Except.ok.inj hafter).symm
    · intro flag v hflag hv
      exact hfound hflag (FlagValue.reread_of_not_float hv)
    · intro flag x hflag
      obtain ⟨y, hsame, hy⟩ := FlagValue.reread_float (hfinite flag x hflag)
      exact ⟨y, hfound hflag hy, hsame⟩
  · rintro ⟨flag, x, hflag, hinfinite⟩
    exact reread_capture_eq_error log hflag hinfinite

/-! ### States with doubles -/

/-- A state in which one flag holds a double. -/
def measuredState (x : Float) : State :=
  State.start { flags := Keyed.empty.insert "speed" (.float x) } "hall" .epoch

/-- There is no other double in this state. -/
theorem flag?_measuredState {x y : Float} {flag : String}
    (h : (measuredState x).flag? flag = some (.float y)) : y = x := by
  change (Keyed.empty.insert "speed" (FlagValue.float x)).get? flag = _ at h
  rw [Keyed.get?_insert] at h
  split at h
  · exact (FlagValue.float.inj (Option.some.inj h)).symm
  · cases h

/-- Two and a half come back, and an infinity is refused. -/
theorem parse_pretty_measuredState :
    (∃ snapshot,
      form.parse (form.pretty (capture (measuredState 2.5) [])) = .ok snapshot ∧
      snapshot.state.flag? "speed" = some (.float 2.5)) ∧
    form.parse (form.pretty (capture (measuredState (1 / 0)) [])) =
      .error (.mismatch (.noCase "FlagValue")) := by
  have hfinite : ∀ flag y, (measuredState 2.5).flag? flag = some (.float y) →
      isFinite y = true := by
    intro flag y hflag
    rw [flag?_measuredState hflag]
    decide
  have hfew : FewDigits 2.5 := ⟨25, 1, by decide, by decide, .inl rfl⟩
  constructor
  · obtain ⟨snapshot, hread, -, -, hfloats, -⟩ :=
      (parse_pretty_floats (measuredState 2.5) []).1 hfinite
    obtain ⟨y, hflag, hsame⟩ := hfloats "speed" 2.5 (by decide)
    rw [hsame hfew] at hflag
    exact ⟨snapshot, hread, hflag⟩
  · exact (parse_pretty_floats (measuredState (1 / 0)) []).2 ⟨"speed", 1 / 0, by decide, by decide⟩

/-- A double with more digits may come back as another one: the largest odd double is read as the
even one before it. -/
theorem parse_pretty_rounded :
    ¬ ∀ (s : State) (log : List Step) (flag : String) (x : Float), s.flag? flag = some (.float x) →
      ∃ snapshot y, form.parse (form.pretty (capture s log)) = .ok snapshot ∧
        snapshot.state.flag? flag = some (.float y) ∧
        (y.toBits = x.toBits ∨ Decimal.isNaN x = true ∧ Decimal.isNaN y = true) := by
  intro h
  obtain ⟨snapshot, y, hread, hflag, hsame⟩ :=
    h (measuredState 9007199254740991) [] "speed" 9007199254740991 (by decide)
  -- All that has to be worked out is what the text of this one flag is read as.
  have hother : (capture (measuredState 9007199254740991) []).reread.toOption.map
      (·.state.flag? "speed") = some (some (.float 9007199254740990)) := by
    decide +kernel
  rw [← parse_pretty_eq, hread] at hother
  have hvalue : snapshot.state.flag? "speed" = some (.float 9007199254740990) :=
    Option.some.inj hother
  rw [hflag] at hvalue
  obtain rfl := FlagValue.float.inj (Option.some.inj hvalue)
  rcases hsame with hbits | ⟨hnan, -⟩
  · exact absurd hbits (by decide)
  · exact absurd hnan (by decide)

end Snapshot

end Gamebook
