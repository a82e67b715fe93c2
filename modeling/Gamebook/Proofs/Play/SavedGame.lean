import Gamebook.Proofs.Play.Pausing
import Gamebook.Proofs.Play.SavedText
import Gamebook.Proofs.Story.ActivityText

/-!
# Games that can be saved at any time

A game starts without flags, and only its actions set them. Where no action sets a flag to a double
and no clock shows a leap second, the text of a snapshot keeps the game as it is, at any point of a
dialogue.

## Key results

- `Game.Plain`: what the snapshot of a game is sure to keep
- `plain_start`, `Plain.entered`, `Plain.after`: how games come to be so, and stay so
- `plain_converse`: a dialogue ends with such a game
- `Plain.parse_save`: the snapshot of such a game is read from its text
-/

namespace Gamebook

namespace State

/-- Whether no flag holds a double. -/
def PlainFlags (s : State) : Prop := ∀ flag v, s.flag? flag = some v → v.isFloat = false

variable {s : State}

/-- A flag that is set to something else than a double is plain. -/
theorem PlainFlags.insert (h : s.PlainFlags) (flag : String) {v : FlagValue}
    (hv : v.isFloat = false) : PlainFlags { s with flags := s.flags.insert flag v } := by
  intro other w hw
  change (s.flags.insert flag v).get? other = some w at hw
  rw [Keyed.get?_insert] at hw
  split at hw
  · obtain rfl := Option.some.inj hw
    exact hv
  · exact h other w hw

/-- A plain action keeps flags plain. -/
theorem PlainFlags.apply (h : s.PlainFlags) {a : Action} (ha : a.isPlain = true) :
    (s.apply a.effect).PlainFlags := by
  obtain ⟨effect, message⟩ := a
  cases effect with
  | setFlag flag value =>
    have hvalue : value.isFloat = false := by simpa [Action.isPlain] using ha
    exact h.insert flag hvalue
  | unlockScene scene => exact h.insert (Effect.unlockedFlag scene) rfl
  -- The other effects leave the flags alone.
  | _ => exact h

/-- Plain actions keep flags plain. -/
theorem PlainFlags.applyAll {actions : List Action} (hactions : ∀ a ∈ actions, a.isPlain = true)
    (h : s.PlainFlags) : (s.applyAll actions).PlainFlags := by
  unfold State.applyAll
  -- Each action meets the state that those before it left, so the induction is for any state.
  induction actions generalizing s with
  | nil => exact h
  | cons action actions ih =>
    exact ih (fun a ha => hactions a (List.mem_cons_of_mem _ ha))
      (h.apply (hactions action List.mem_cons_self))

end State

namespace Game

/-- What the snapshot of a game is sure to keep: no flag holds a double, and no time lies in a leap
second. -/
structure Plain (game : Game) : Prop where
  flags : game.state.PlainFlags
  startTime : game.state.startTime.isLeap = false
  lastSaveTime : game.state.lastSaveTime.isLeap = false
  log : ∀ step ∈ game.log, step.timestamp.isLeap = false

variable {activity : Activity} {rules : Rules} {game : Game}

/-- A game starts without flags and with an empty log. -/
theorem plain_start (activity : Activity) (rules : Rules) {now : Instant}
    (hnow : now.isLeap = false) : (start activity rules {} now).Plain where
  flags flag v hflag := by
    have hnone : (start activity rules {} now).state.flag? flag = none := rfl
    rw [hnone] at hflag
    cases hflag
  startTime := hnow
  lastSaveTime := hnow
  log step hstep := absurd hstep List.not_mem_nil

/-- Entering a scene keeps a game plain. -/
theorem Plain.entered (h : game.Plain) : game.entered.Plain := by
  rw [entered_eq]
  split
  · exact ⟨h.flags, h.startTime, h.lastSaveTime, h.log⟩
  · exact h

/-- A choice with plain actions keeps a game plain. -/
theorem Plain.after (h : game.Plain) (scene : Scene) {choice : Choice} {now : Instant}
    (hactions : ∀ a ∈ choice.actions, a.isPlain = true) (hnow : now.isLeap = false) :
    (game.after scene choice now).Plain := by
  refine ⟨fun flag v hflag => ?_, ?_, ?_, fun step hstep => ?_⟩
  · -- Flags are set by the actions alone, after the scene was entered.
    have hvisited : (game.state.visit scene.id).PlainFlags := h.flags
    unfold State.flag? at hflag
    rw [flags_after] at hflag
    exact hvisited.applyAll hactions flag v hflag
  · rw [startTime_after]
    exact h.startTime
  · rw [lastSaveTime_after]
    exact hnow
  · rw [after_log] at hstep
    rcases List.mem_append.1 hstep with hstep | hstep
    -- A step from before is known to be plain, and the new one has the time of the choice.
    · exact h.log step hstep
    · obtain rfl := List.mem_singleton.1 hstep
      exact hnow

/-- A choice that is taken is one of the story. -/
theorem OnStory.mem_allActions (hgame : game.OnStory activity rules) {scene : Scene}
    {choiceId : String} {choice : Choice} (hpeek : game.peek = some scene)
    (hchoice : scene.choice? choiceId = some choice) :
    ∀ a ∈ choice.actions, a ∈ activity.allActions := by
  have hscene : scene ∈ activity.scenes := hgame.mem_of_scene? hpeek
  exact fun a ha => List.mem_flatMap_of_mem hscene
    (List.mem_flatMap_of_mem (List.mem_of_find?_eq_some hchoice) ha)

/-- A dialogue in a story without doubles, at times without leap seconds, ends with a plain game of
that story. -/
theorem plain_converse (source : Source) {inputs : List (Readings × String)}
    (hactions : ∀ a ∈ activity.allActions, a.isPlain = true)
    (hinputs : ∀ input ∈ inputs, input.1.first.isLeap = false) (hgame : game.OnStory activity rules)
    (h : game.Plain) :
    (source.converse game inputs).game.OnStory activity rules ∧
      (source.converse game inputs).game.Plain := by
  refine Source.converse_induction (fun game => game.OnStory activity rules ∧ game.Plain)
    (fun game h => ⟨h.1.entered, h.2.entered⟩) inputs
    (fun input hinput game choiceId outcome next h hnext => ?_) ⟨hgame, h⟩
  -- An input that changes the game takes a choice of the story at the time of the input.
  obtain ⟨scene, choice, hpeek, hchoice, rfl, -⟩ := choose_eq_ok_iff.1 hnext
  exact ⟨h.1.after scene choice input.1.first, h.2.after scene
    (fun a ha => hactions a (h.1.mem_allActions hpeek hchoice a ha)) (hinputs input hinput)⟩

/-- The snapshot of a plain game is read from its text. -/
theorem Plain.parse_save (h : game.Plain) :
    Snapshot.form.parse (Snapshot.form.pretty game.save) = .ok game.save :=
  Form.parse_pretty (Snapshot.readsBack_form 124
    (Snapshot.plain_capture h.flags h.startTime h.lastSaveTime h.log))

end Game

end Gamebook
