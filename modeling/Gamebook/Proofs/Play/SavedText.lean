import Gamebook.Proofs.Json.RecordBack
import Gamebook.Proofs.Play.Resume
import Gamebook.Proofs.Story.Flags
import Gamebook.Proofs.Time.Stamps

/-!
# The text of a saved game

A game is saved as text and read back from it. Nothing is lost on the way, as long as no flag holds
a double and no time lies in a leap second: strings of any characters, words of any size and all
instants of the calendar come back as they were.

## Key results

- `Snapshot.answers_form`: what the text of any snapshot is read as
- `Snapshot.Plain`: what the text of a snapshot is sure to keep
- `Snapshot.readsBack_form`: plain snapshots are read back
- `Snapshot.parse_pretty_plain`: so a plain snapshot, or a state and its log, come back from the
  text
-/

namespace Gamebook

/-- The stamp of an instant is read as the instant that it names. -/
theorem Instant.answers_form (depth : Nat) (t : Instant) :
    Instant.form.Answers depth (Instant.form.toJson t) (.ok t.stamped) := by
  refine (Form.readsBack_textOf _ depth _).answers_check ?_
  rw [String.toList_ofList, Stamp.read_write_stamped]

/-- A step as its text tells it. -/
def Step.stamped (step : Step) : Step := { step with timestamp := step.timestamp.stamped }

/-- A step that is not taken in a leap second is kept. -/
theorem Step.stamped_of_not_leap {step : Step} (h : step.timestamp.isLeap = false) :
    step.stamped = step := by
  unfold stamped
  rw [step.timestamp.stamped_of_not_leap h]

/-- Steps of the log are read as their texts tell them. -/
theorem Step.answers_form (depth : Nat) (step : Step) :
    Step.form.Answers (depth + 1) (Step.form.toJson step) (.ok step.stamped) := by
  have hfields : Step.fields.Answers depth
      (step.sceneId, step.choiceId, step.timestamp, step.timeSpent, step.educationalValue, ())
      (.ok (step.sceneId, step.choiceId, step.timestamp.stamped, step.timeSpent,
        step.educationalValue, ())) := by
    apply Fields.answers_required (Form.readsBack_text depth _).answers
    apply Fields.answers_required (Form.readsBack_text depth _).answers
    apply Fields.answers_required (Instant.answers_form depth _)
    apply Fields.answers_required (Form.readsBack_uint64 depth _).answers
    apply Fields.answers_required (Form.readsBack_uint32 depth _).answers
    rfl
  exact (Form.answers_record "StoryProgress" (by decide) hfields).map _ _

namespace Snapshot

/-- A snapshot with some flags, and its times as their stamps tell them. -/
def toldWith (snapshot : Snapshot) (flags : List (String × FlagValue)) : Snapshot :=
  { snapshot with
    flags
    startTime := snapshot.startTime.stamped
    lastSaveTime := snapshot.lastSaveTime.stamped
    log := snapshot.log.map Step.stamped }

/-- The text of a snapshot is read with the flags that are read from it. They are the only field
that may be refused. -/
theorem answers_form (depth : Nat) (snapshot : Snapshot)
    {result : Except Json.Problem (List (String × FlagValue))}
    (hflags : (Form.list (.pair .text FlagValue.form)).Answers (depth + 2)
      ((Form.list (.pair .text FlagValue.form)).toJson snapshot.flags) result) :
    form.Answers (depth + 3) (form.toJson snapshot) (result.map snapshot.toldWith) := by
  obtain ⟨currentSceneId, inventory, flags, relationships, visited, totalChoices, totalPoints,
    startTime, lastSaveTime, completedObjectives, log⟩ := snapshot
  have hinventory : (Form.list (.pair .text .bool)).ReadsBack (depth + 2) inventory :=
    Form.readsBack_list fun item _ =>
      Form.readsBack_pair (Form.readsBack_text _ _) (Form.readsBack_bool _ _)
  have hrelationships : (Form.list (.pair .text .int64)).ReadsBack (depth + 2) relationships :=
    Form.readsBack_list fun relationship _ =>
      Form.readsBack_pair (Form.readsBack_text _ _) (Form.readsBack_int64 _ _)
  have hnames : ∀ names, (Form.list .text).ReadsBack (depth + 2) names := fun names =>
    Form.readsBack_list fun name _ => Form.readsBack_text _ _
  have hlog : (Form.list Step.form).Answers (depth + 2) ((Form.list Step.form).toJson log)
      (.ok (log.map Step.stamped)) := by
    have hsteps : (log.mapM fun step => (.ok step.stamped : Except Json.Problem Step)) =
        .ok (log.map Step.stamped) := List.mapM_pure
    rw [← hsteps]
    exact Form.answers_list fun step _ => Step.answers_form depth step
  -- A problem with the flags is reported before the fields after them are read.
  cases result with
  | error e =>
    have hfields : fields.Answers (depth + 2) (currentSceneId, inventory, flags, relationships,
        visited, totalChoices, totalPoints, startTime, lastSaveTime, completedObjectives, log, ())
        (.error e) := by
      apply Fields.answers_required_later (Form.readsBack_text _ _).answers
      apply Fields.answers_required_later hinventory.answers
      exact Fields.answers_required_error hflags
    have hrecord := Form.answers_record "SaveState" (by decide) hfields
    exact hrecord.map _ _
  | ok others =>
    have hfields : fields.Answers (depth + 2) (currentSceneId, inventory, flags, relationships,
        visited, totalChoices, totalPoints, startTime, lastSaveTime, completedObjectives, log, ())
        (.ok (currentSceneId, inventory, others, relationships, visited, totalChoices, totalPoints,
          startTime.stamped, lastSaveTime.stamped, completedObjectives, log.map Step.stamped,
          ())) := by
      apply Fields.answers_required (Form.readsBack_text _ _).answers
      apply Fields.answers_required hinventory.answers
      apply Fields.answers_required hflags
      apply Fields.answers_required hrelationships.answers
      apply Fields.answers_required (hnames _).answers
      apply Fields.answers_required (Form.readsBack_uint32 _ _).answers
      apply Fields.answers_required (Form.readsBack_uint32 _ _).answers
      apply Fields.answers_required (Instant.answers_form _ _)
      apply Fields.answers_required (Instant.answers_form _ _)
      apply Fields.answers_required (hnames _).answers
      apply Fields.answers_required hlog
      rfl
    have hrecord := Form.answers_record "SaveState" (by decide) hfields
    exact hrecord.map _ _

/-- What the text of a snapshot is sure to keep: no flag holds a double, and no time lies in a leap
second. -/
structure Plain (snapshot : Snapshot) : Prop where
  flags : ∀ flag ∈ snapshot.flags, flag.2.isFloat = false
  startTime : snapshot.startTime.isLeap = false
  lastSaveTime : snapshot.lastSaveTime.isLeap = false
  log : ∀ step ∈ snapshot.log, step.timestamp.isLeap = false

/-- A plain snapshot that is told with its own flags is itself. -/
theorem Plain.toldWith_flags {snapshot : Snapshot} (h : snapshot.Plain) :
    snapshot.toldWith snapshot.flags = snapshot := by
  have hlog : snapshot.log.map Step.stamped = snapshot.log := by
    have hstamped : ∀ step ∈ snapshot.log, step.stamped = id step := fun step hstep =>
      Step.stamped_of_not_leap (h.log step hstep)
    rw [List.map_congr_left hstamped, List.map_id]
  unfold toldWith
  rw [snapshot.startTime.stamped_of_not_leap h.startTime,
    snapshot.lastSaveTime.stamped_of_not_leap h.lastSaveTime, hlog]

/-- Plain snapshots are read back. -/
theorem readsBack_form (depth : Nat) {snapshot : Snapshot} (h : snapshot.Plain) :
    form.ReadsBack (depth + 3) snapshot := by
  have hflags : (Form.list (.pair .text FlagValue.form)).ReadsBack (depth + 2) snapshot.flags :=
    Form.readsBack_list fun flag hflag =>
      Form.readsBack_pair (Form.readsBack_text _ _)
        (FlagValue.readsBack_form _ _ (h.flags flag hflag))
  have hread := answers_form depth snapshot hflags.answers
  change form.Answers (depth + 3) (form.toJson snapshot) (.ok (snapshot.toldWith snapshot.flags))
    at hread
  rw [h.toldWith_flags] at hread
  exact hread.readsBack

/-- The snapshot of a state and a log is plain if no flag holds a double and no time lies in a leap
second. -/
theorem plain_capture {s : State} {log : List Step}
    (hflags : ∀ flag v, s.flag? flag = some v → v.isFloat = false)
    (hstart : s.startTime.isLeap = false) (hlast : s.lastSaveTime.isLeap = false)
    (hlog : ∀ step ∈ log, step.timestamp.isLeap = false) : (capture s log).Plain := by
  refine ⟨fun flag hflag => ?_, hstart, hlast, hlog⟩
  exact hflags flag.1 flag.2 (Keyed.get?_of_mem s.flags hflag)

/-- A plain snapshot is read from its text. So the text of the snapshot of a state and a log is read
as a snapshot that holds this state and this log, if no flag holds a double and no time lies in a
leap second. -/
theorem parse_pretty_plain :
    (∀ snapshot : Snapshot, snapshot.Plain → form.parse (form.pretty snapshot) = .ok snapshot) ∧
    ∀ (s : State) (log : List Step),
      (∀ flag v, s.flag? flag = some v → v.isFloat = false) →
      s.startTime.isLeap = false → s.lastSaveTime.isLeap = false →
      (∀ step ∈ log, step.timestamp.isLeap = false) →
      ∃ snapshot, form.parse (form.pretty (capture s log)) = .ok snapshot ∧
        snapshot.restore = (s, log) := by
  -- A snapshot is nested three levels deep, and 127 are allowed.
  have hparse : ∀ snapshot : Snapshot, snapshot.Plain →
      form.parse (form.pretty snapshot) = .ok snapshot := fun snapshot h =>
    Form.parse_pretty (readsBack_form 124 h)
  refine ⟨hparse, fun s log hflags hstart hlast hlog => ⟨capture s log, ?_, restore_capture s log⟩⟩
  exact hparse _ (plain_capture hflags hstart hlast hlog)

/-! ### A snapshot with hard texts and numbers -/

/-- A snapshot with a quote, a backslash, control characters and characters beyond ASCII in its
texts, with the least signed word, and with times far from the epoch. -/
def intricate : Snapshot where
  currentSceneId := "the \"cellar\"\t\x01"
  inventory := [("lamp\\", true), ("", false)]
  flags :=
    [("größe", .integer (-9223372036854775808)), ("1", .bool true), ("name", .text "\x7b雪\n")]
  relationships := [("cat", -3)]
  visited := ["attic", "\x0c"]
  totalChoices := 4294967295
  totalPoints := 0
  startTime := ⟨-800000, 86399, 1000, by decide, by decide, by decide, by decide⟩
  lastSaveTime := ⟨5000000, 43200, 123456789, by decide, by decide, by decide, by decide⟩
  completedObjectives := ["", "\r"]
  log :=
    [{ sceneId := "attic", choiceId := "/", timestamp := .epoch
       timeSpent := 18446744073709551615, educationalValue := 6 }]

/-- The intricate snapshot and its state come back from their texts. -/
theorem parse_pretty_intricate :
    intricate.Plain ∧ form.parse (form.pretty intricate) = .ok intricate ∧
    ∃ snapshot, form.parse (form.pretty (capture intricate.state intricate.log)) = .ok snapshot ∧
      snapshot.restore = (intricate.state, intricate.log) := by
  have hplain : intricate.Plain := ⟨by decide, by decide, by decide, by decide⟩
  have hflags : ∀ flag v, intricate.state.flag? flag = some v → v.isFloat = false := by
    have hentries : ∀ e ∈ intricate.state.flags.entries, e.2.isFloat = false := by decide
    intro flag v hv
    exact hentries (flag, v) (Keyed.mem_of_get? _ hv)
  exact ⟨hplain, parse_pretty_plain.1 intricate hplain,
    parse_pretty_plain.2 intricate.state intricate.log hflags (by decide) (by decide) (by decide)⟩

end Snapshot

end Gamebook
