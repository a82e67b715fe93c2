import Gamebook.CommandLine.Run
import Gamebook.Proofs.Play.SavedGame
import Gamebook.Proofs.Time.Millis

/-!
# Pausing a play

A play that is paused, saved and resumed ends as if it had not been paused: with the same result,
pause or failure, in the same game, and with the same text in the file that it saves.

## Key results

- `exists_of_game`: the game that is built for a command
- `game_resume`: the game that is built to go on from a snapshot
- `dialogue_of_game`: a dialogue is played with the inputs of its script
- `pause_changes_nothing`: a script that is played in two parts ends as it does in one
-/

namespace Gamebook

open Reading

namespace Setting

variable {setting later : Setting}

/-- A file with the same text is read with the same result. -/
theorem parsed_congr {α : Type} {path : String} (h : later.read path = setting.read path)
    (parse : String → Except Json.Problem α) (message : Json.Problem → String) :
    later.parsed path parse message = setting.parsed path parse message := by
  unfold parsed text
  rw [h]

/-- A file that may not be named is read with the same result, if it has the same text. -/
theorem parsed?_congr {α : Type} {path : Option String}
    (h : ∀ file ∈ path, later.read file = setting.read file)
    (parse : String → Except Json.Problem α) (message : String → Json.Problem → String) :
    later.parsed? path parse message = setting.parsed? path parse message := by
  cases path with
  | none => rfl
  | some file => exact congrArg (some <$> ·) (parsed_congr (h file rfl) parse (message file))

/-- A file that is read well gives what its text says. -/
theorem parsed_ok {α : Type} {path text : String} {parse : String → Except Json.Problem α} {a : α}
    (hread : setting.read path = .ok text) (hparse : parse text = .ok a)
    (message : Json.Problem → String) : setting.parsed path parse message = .ok a := by
  have htext : setting.text path = .ok text := by
    unfold Setting.text
    rw [hread]
  simp only [parsed, htext, bind, Except.bind, hparse]

end Setting

namespace PlayOptions

variable {options : PlayOptions} {setting later : Setting} {game : Game}

/-- The rules that a command names, if it names any. -/
private abbrev rules? (options : PlayOptions) (setting : Setting) : Except String (Option Rules) :=
  setting.parsed? options.config Rules.parse fun path problem =>
    Setting.invalidMessage "engine config" path problem.message

/-- The snapshot that a command names, if it names one. -/
private abbrev snapshot? (options : PlayOptions) (setting : Setting) :
    Except String (Option Snapshot) :=
  setting.parsed? options.resume Snapshot.form.parse fun _ => Snapshot.invalidMessage

/-- A game is built from a story with a starting scene, from rules, and from a snapshot if there is
one. -/
private theorem game_eq (options : PlayOptions) {activity : Activity} {rules : Option Rules}
    {snapshot : Option Snapshot} (hactivity : setting.activity options.file = .ok activity)
    (hrules : options.rules? setting = .ok rules)
    (hsnapshot : options.snapshot? setting = .ok snapshot)
    (hstart : activity.startingScene?.isSome = true) :
    options.game setting =
      .ok (Game.startOrResume activity (rules.getD {}) {} snapshot setting.started) := by
  unfold game
  rw [hactivity]
  -- The files are read in this order, and what is read last is the saved game.
  show (options.rules? setting >>= fun rules => options.snapshot? setting >>= fun snapshot => _) = _
  rw [hrules]
  show (options.snapshot? setting >>= fun snapshot => _) = _
  rw [hsnapshot]
  exact if_pos hstart

/-- All that a game is built from could be read. -/
theorem exists_of_game (h : options.game setting = .ok game) :
    ∃ activity rules snapshot, setting.activity options.file = .ok activity ∧
      options.rules? setting = .ok rules ∧ options.snapshot? setting = .ok snapshot ∧
      activity.startingScene?.isSome = true ∧
      game = Game.startOrResume activity (rules.getD {}) {} snapshot setting.started := by
  obtain ⟨activity, hactivity, h⟩ := of_then_ok h
  obtain ⟨rules, hrules, h⟩ := of_then_ok h
  obtain ⟨snapshot, hsnapshot, h⟩ := of_then_ok h
  unfold Game.tryStart at h
  split at h
  · rename_i hstart
    exact ⟨activity, rules, snapshot, hactivity, hrules, hsnapshot, hstart, (Except.ok.inj h).symm⟩
  · cases h

/-- A game that goes on from the snapshot in a file is the game of which it was taken. -/
private theorem game_resume (options : PlayOptions) {path : String} {activity : Activity}
    {rules : Option Rules} {saved : Game} (hactivity : setting.activity options.file = .ok activity)
    (hrules : options.rules? setting = .ok rules)
    (hstart : activity.startingScene?.isSome = true)
    (hfiles : ∀ file, file = options.file ∨ options.config = some file →
      later.read file = setting.read file)
    (hread : later.read path = .ok (Snapshot.form.pretty saved.save))
    (hsaved : saved.OnStory activity (rules.getD {})) (hplain : saved.Plain) :
    ({ options with resume := some path } : PlayOptions).game later = .ok saved := by
  -- The activity and the rules are read from the same files as before.
  have hactivity' : later.activity options.file = .ok activity :=
    (Setting.parsed_congr (hfiles _ (.inl rfl)) _ _).trans hactivity
  have hrules' : options.rules? later = .ok rules :=
    (Setting.parsed?_congr (fun file hfile => hfiles file (.inr hfile)) _ _).trans hrules
  have hsnapshot : ({ options with resume := some path } : PlayOptions).snapshot? later =
      .ok (some saved.save) :=
    congrArg (some <$> ·) (Setting.parsed_ok hread hplain.parse_save _)
  rw [game_eq { options with resume := some path } hactivity' hrules' hsnapshot hstart,
    Game.startOrResume_save hsaved]

/-! ## Dialogues and what comes of them -/

/-- The command that plays a story with a script. -/
def scripted (file : String) (config : Option String) (script : String) : PlayOptions :=
  { file, config, choices := some script }

/-- A game is played with the inputs that the command finds. -/
theorem dialogue_of_game (options : PlayOptions) (h : options.game setting = .ok game) :
    options.dialogue setting =
      .ok (options.source.converse game (options.inputs setting)) := by
  unfold dialogue
  rw [h]
  rfl

/-- How a command fails is told by how its dialogue ends. -/
theorem failure_report {dialogue : Dialogue} (h : options.dialogue setting = .ok dialogue) :
    (options.report setting).failure =
      match dialogue.close with
      | .failed message => some message
      | _ => none := by
  unfold report
  rw [h]
  show (options.ending dialogue.game dialogue.close).failure = _
  cases dialogue.close <;> rfl

/-- What a command saves is the game at the end of its dialogue, unless that failed. -/
theorem document_report {dialogue : Dialogue} (h : options.dialogue setting = .ok dialogue) :
    (options.report setting).document =
      match dialogue.close with
      | .failed _ => none
      | _ => options.document? dialogue.game := by
  unfold report
  rw [h]
  show (options.ending dialogue.game dialogue.close).document = _
  cases dialogue.close <;> rfl

/-- The text that a command saves is that of the snapshot of its last game. -/
theorem text_document {dialogue : Dialogue} (h : options.dialogue setting = .ok dialogue) :
    ∀ document ∈ (options.report setting).document,
      document.text = Snapshot.form.pretty dialogue.game.save := by
  intro document hdocument
  rw [document_report h] at hdocument
  split at hdocument
  · cases hdocument
  · obtain ⟨path, -, rfl⟩ := Option.map_eq_some_iff.1 hdocument
    rfl

/-- Commands whose dialogues close in the same way, and in the same game, fail alike and save the
same text, if they save any. -/
theorem reports_agree {other : PlayOptions} {mine yours : Dialogue}
    (hmine : options.dialogue later = .ok mine) (hyours : other.dialogue setting = .ok yours)
    (hclose : mine.close = yours.close) (hgame : mine.game = yours.game) :
    (options.report later).failure = (other.report setting).failure ∧
      ∀ one ∈ (options.report later).document, ∀ another ∈ (other.report setting).document,
        one.text = another.text := by
  refine ⟨?_, fun one hone another hanother => ?_⟩
  · rw [failure_report hmine, failure_report hyours, hclose]
  · rw [text_document hmine one hone, text_document hyours another hanother, hgame]

/-- The inputs of two scripts in a row are those of the first, and those of the second at the times
that follow. -/
theorem inputs_scripted_append {file : String} {config : Option String} {before after : String}
    (hclock : ∀ i, later.clock i = setting.clock ((scriptInputs before).length + i)) :
    (scripted file config (before ++ "," ++ after)).inputs setting =
      (scripted file config before).inputs setting ++
        (scripted file config after).inputs later := by
  have hshift : (fun i input => (setting.clock (i + (scriptInputs before).length), input)) =
      fun i (input : String) => (later.clock i, input) := by
    funext i input
    rw [hclock i, Nat.add_comm]
  show (scriptInputs (before ++ "," ++ after)).mapIdx _ = _
  rw [scriptInputs_append, List.mapIdx_append, hshift]
  rfl

/-- Inputs are answered at readings of the clock. -/
theorem isLeap_inputs (options : PlayOptions)
    (hclock : ∀ i, (setting.clock i).first.isLeap = false) :
    ∀ input ∈ options.inputs setting, input.1.first.isLeap = false := by
  intro input hinput
  obtain ⟨i, hi, rfl⟩ := List.mem_mapIdx.1 hinput
  exact hclock i

/-! ## Playing in two parts -/

/-- A script that is played in two parts ends as it does in one. Let a story with a starting scene,
which sets no flag to a double, be played with a script, each input of which is taken without
completing the story, at times that lie in no leap second, as those of the program's clock do not.
This succeeds and saves a game. Whoever resumes from that file later, from the same story and rules
and with another script, at the times that follow, comes to the end that both scripts in a row have,
and is shown the last part of what is shown there: the dialogue ends in the same way and in the same
game, the command fails if the other does and with the same message, and if both save what they come
to, they save the same text, which holds this game. -/
theorem pause_changes_nothing (setting : Setting) (file : String) (config : Option String)
    (before path : String) {game last : Game}
    (hgame : (scripted file config before).game setting = .ok game)
    (hflags : ∀ a ∈ game.activity.allActions, a.isPlain = true)
    (hstarted : setting.started.isLeap = false)
    (hclock : ∀ i, (setting.clock i).first.isLeap = false)
    (htaken : game.TakesAll ((scripted file config before).inputs setting) last) :
    let first : PlayOptions := { scripted file config before with save := some path }
    ∃ saved : Document, (first.report setting).failure = none ∧
      (first.report setting).document = some saved ∧ saved.path = path ∧
      ∀ (after : String) (save wholeSave : Option String) (later : Setting),
        later.read path = .ok saved.text →
        (∀ f, f = file ∨ config = some f → later.read f = setting.read f) →
        (∀ i, later.clock i = setting.clock ((scriptInputs before).length + i)) →
        let second : PlayOptions := { scripted file config after with resume := some path, save }
        let whole : PlayOptions :=
          { scripted file config (before ++ "," ++ after) with save := wholeSave }
        ∃ resumed through : Dialogue,
          second.dialogue later = .ok resumed ∧ whole.dialogue setting = .ok through ∧
          resumed.close = through.close ∧ resumed.game = through.game ∧
          (∃ shown, through.text = shown ++ resumed.text) ∧
          (second.report later).failure = (whole.report setting).failure ∧
          ∀ one ∈ (second.report later).document, ∀ other ∈ (whole.report setting).document,
            one.text = other.text ∧
            ∃ snapshot, Snapshot.form.parse one.text = .ok snapshot ∧
              snapshot.restore = (through.game.state, through.game.log) := by
  intro first
  obtain ⟨activity, rules, snapshot, hactivity, hrules, hsnapshot, hstart, rfl⟩ :=
    exists_of_game hgame
  obtain rfl : none = snapshot := Except.ok.inj hsnapshot
  have hstory := Game.onStory_startOrResume activity (rules.getD {}) {} none setting.started
  have hplain : (Game.startOrResume activity (rules.getD {}) {} none setting.started).Plain :=
    Game.plain_start activity (rules.getD {}) hstarted
  -- From here on only what is known of the game matters, and not how it was started.
  generalize Game.startOrResume activity (rules.getD {}) {} none setting.started = game at *
  rw [hstory.activity_eq] at hflags
  -- The first part ends in a pause, and saves the game there.
  obtain ⟨hpaused, shown, hgoesOn⟩ := htaken.pause
  obtain ⟨hstory', hplain'⟩ := Game.plain_converse .script hflags
    (isLeap_inputs (scripted file config before) hclock) hstory hplain
  have hfirst : first.dialogue setting =
      .ok (Source.script.converse game ((scripted file config before).inputs setting)) :=
    dialogue_of_game first hgame
  generalize Source.script.converse game ((scripted file config before).inputs setting) = pause
    at *
  refine ⟨_, ?_, (document_report hfirst).trans (by rw [hpaused]; rfl), rfl, ?_⟩
  · rw [failure_report hfirst, hpaused]
  intro after save wholeSave later hread hfiles hlater second whole
  -- The second part begins with that game, and the whole script goes on with it.
  have hsecond : second.dialogue later =
      .ok (Source.script.converse pause.game (second.inputs later)) :=
    dialogue_of_game second
      (game_resume (scripted file config after) hactivity hrules hstart hfiles hread hstory'
        hplain')
  have hinputs : whole.inputs setting =
      (scripted file config before).inputs setting ++ second.inputs later :=
    inputs_scripted_append hlater
  have hwhole : whole.dialogue setting =
      .ok (Source.script.converse game (whole.inputs setting)) :=
    dialogue_of_game whole hgame
  -- The two conversations now begin with the same game and read the same lines.
  rw [hinputs, hgoesOn] at hwhole
  obtain ⟨-, hlast⟩ := Game.plain_converse .script hflags
    (isLeap_inputs second fun i => hlater i ▸ hclock _) hstory' hplain'
  generalize Source.script.converse pause.game (second.inputs later) = resumed
    at hsecond hwhole hlast
  obtain ⟨hfailure, htexts⟩ := reports_agree hsecond hwhole rfl rfl
  refine ⟨resumed, resumed.after shown, hsecond, hwhole, rfl, rfl, ⟨shown, rfl⟩, hfailure,
    fun one hone other hother => ⟨htexts one hone other hother, resumed.game.save, ?_,
      Snapshot.restore_capture _ _⟩⟩
  rw [text_document hsecond one hone]
  exact hlast.parse_save

/-! ### A stroll in two parts -/

/-- A short stroll, on which something is found and remembered. -/
def strollStory : Activity where
  id := "stroll"
  title := "Stroll"
  startingSceneId := "gate"
  objectives := ["see the pond"]
  scenes :=
    [{ id := "gate", title := "Gate", description := "An open gate."
       choices :=
        [{ id := "enter", text := "Go in", nextSceneId := "garden", points := some 2
           actions :=
            [{ effect := .addItem "leaf", message := some "You pick up a leaf." },
              { effect := .setFlag "steps" (.integer 12) }] }] },
     { id := "garden", title := "Garden", description := ""
       choices :=
        [{ id := "pond", text := "To the pond", nextSceneId := "water"
           conditions := [.visited "garden"] }] },
     { id := "water", title := "Pond", description := "", isEnding := true }]

/-- The story in a file, and a clock that shows a millisecond more at each reading. -/
def strollSetting : Setting where
  newId := ""
  started := .epoch
  clock i :=
    { first := (Instant.ofMillis? (2 * i)).getD .epoch
      second := (Instant.ofMillis? (2 * i + 1)).getD .epoch }
  typed := ""
  read path :=
    if path = "stroll.json" then .ok (Activity.form.pretty strollStory) else .error .notFound

/-- The same files later, and the file that was saved. -/
def laterStroll (saved : Document) : Setting where
  newId := ""
  started := .epoch
  clock i := strollSetting.clock (1 + i)
  typed := ""
  read path := if path = saved.path then .ok saved.text else strollSetting.read path

/-- The story is what its file says. -/
theorem activity_strollSetting : strollSetting.activity "stroll.json" = .ok strollStory := by
  have hplain : strollStory.Plain := ⟨by decide, by decide⟩
  have hproper : strollStory.Proper := by
    unfold Activity.Proper
    decide
  exact Setting.parsed_ok rfl (Form.parse_pretty (Activity.readsBack_form 120 hplain hproper)) _

/-- The clock shows no leap second. -/
theorem isLeap_strollSetting (i : Nat) : (strollSetting.clock i).first.isLeap = false := by
  show ((Instant.ofMillis? (2 * i)).getD .epoch).isLeap = false
  cases htime : Instant.ofMillis? (2 * i) with
  | none => decide
  | some t => exact (Instant.ofNanos?_eq_some_iff.1 htime).1

/-- The gate lets the player in, who then stands in the garden. -/
theorem takesAll_strollStory : ∃ last, (Game.start strollStory {} {} .epoch).TakesAll
    ((scripted "stroll.json" none "enter").inputs strollSetting) last := by
  have hresolve : resolve? "enter" (Game.start strollStory {} {} .epoch).choices.1 =
      some "enter" := by decide +kernel
  have hinputs : (scripted "stroll.json" none "enter").inputs strollSetting =
      [(strollSetting.clock 0, "enter")] := by
    -- The script is a single word.
    have hscript : scriptInputs "enter" = ["enter"] := by decide
    show (scriptInputs "enter").mapIdx _ = _
    rw [hscript]
    rfl
  rw [hinputs]
  exact ⟨_, .cons (by decide) hresolve
    (Game.choose_eq_ok_iff.2 ⟨strollStory.scenes[0], strollStory.scenes[0].choices[0],
      by decide +kernel, by decide +kernel, rfl, rfl⟩) (by decide +kernel) (.nil _)⟩

/-- A stroll that is paused in the garden ends at the pond all the same. -/
theorem pause_changes_nothing_strollStory :
    let first : PlayOptions :=
      { scripted "stroll.json" none "enter" with save := some "stroll.save" }
    let second : PlayOptions :=
      { scripted "stroll.json" none " 1" with
        resume := some "stroll.save", save := some "stroll.save" }
    let whole : PlayOptions :=
      { scripted "stroll.json" none ("enter" ++ "," ++ " 1") with save := some "whole.save" }
    ∃ saved : Document, (first.report strollSetting).document = some saved ∧
      ∃ resumed through : Dialogue, second.dialogue (laterStroll saved) = .ok resumed ∧
        whole.dialogue strollSetting = .ok through ∧ resumed.close = through.close ∧
        resumed.game = through.game := by
  intro first second whole
  have hgame : (scripted "stroll.json" none "enter").game strollSetting =
      .ok (Game.start strollStory {} {} .epoch) :=
    game_eq (scripted "stroll.json" none "enter") activity_strollSetting rfl rfl (by decide)
  obtain ⟨last, htaken⟩ := takesAll_strollStory
  obtain ⟨saved, -, hsaved, hpath, hresume⟩ := pause_changes_nothing strollSetting "stroll.json"
    none "enter" "stroll.save" hgame (by decide) (by decide) isLeap_strollSetting htaken
  have hread : (laterStroll saved).read "stroll.save" = .ok saved.text := if_pos hpath.symm
  -- The later setting differs in the file that was saved, and in nothing else.
  have hfiles : ∀ f, f = "stroll.json" ∨ none = some f →
      (laterStroll saved).read f = strollSetting.read f := by
    rintro f (rfl | hnone)
    · exact if_neg (by rw [hpath]; decide)
    · cases hnone
  have hlater : ∀ i, (laterStroll saved).clock i =
      strollSetting.clock ((scriptInputs "enter").length + i) := by
    have hlength : (scriptInputs "enter").length = 1 := by decide
    intro i
    rw [hlength]
    rfl
  obtain ⟨resumed, through, hsecond, hwhole, hclose, hlast, -⟩ :=
    hresume " 1" (some "stroll.save") (some "whole.save") (laterStroll saved) hread hfiles hlater
  exact ⟨saved, hsaved, resumed, through, hsecond, hwhole, hclose, hlast⟩

end PlayOptions

end Gamebook
