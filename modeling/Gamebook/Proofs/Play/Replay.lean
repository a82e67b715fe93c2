import Gamebook.Proofs.Play.Effects
import Gamebook.Proofs.Play.SceneIndex

/-!
# Replaying the log

The log of a game is a complete record: a fresh game of the story that is given only the choices of
the log, each at its time, takes all of them and ends where the game stands. Looking at scenes,
refused choices and objectives leave no trace in what choices do; a look only enters the current
scene early.

## Key results

- `replayed_step`: one move of the game is followed by the replay of the step it logs, if any
- `replay_log`: replaying the log reproduces the log, the state and all but one of the scenes
  entered
-/

namespace Gamebook

/-- The move that a step of the log records, with its time. -/
def Step.move (step : Step) : Readings × Move := (.still step.timestamp, .choose step.choiceId)

namespace Game

/-- Whether `echo` stands where `game` stands, up to the objectives and to a look at the current
scene. -/
structure Echoes (game echo : Game) : Prop where
  activity_eq : echo.activity = game.activity
  index_eq : echo.index = game.index
  core_eq : echo.state.core = game.state.core
  log_eq : echo.log = game.log
  visited_of_echo : ∀ id, echo.state.hasVisited id → game.state.hasVisited id
  visited_of_game : ∀ id, game.state.hasVisited id →
    echo.state.hasVisited id ∨ id = game.state.currentSceneId

namespace Echoes

variable {game echo : Game}

/-- The two stand in the same scene. -/
theorem currentSceneId_eq (h : Echoes game echo) :
    echo.state.currentSceneId = game.state.currentSceneId := by
  show echo.state.core.currentSceneId = game.state.core.currentSceneId
  rw [h.core_eq]

/-- The two find the same scenes. -/
theorem scene?_eq (h : Echoes game echo) (id : String) : echo.scene? id = game.scene? id := by
  unfold scene?
  rw [h.activity_eq, h.index_eq]

/-- The two find the same choices. -/
theorem find_eq (h : Echoes game echo) (choiceId : String) :
    echo.find choiceId = game.find choiceId := by
  unfold find peek
  rw [h.scene?_eq, h.currentSceneId_eq]

/-- The two log the same step for a choice. -/
theorem stepOf_eq (h : Echoes game echo) (scene : Scene) (choice : Choice) (now : Instant) :
    echo.stepOf scene choice now = game.stepOf scene choice now := by
  have hlast : echo.state.lastSaveTime = game.state.lastSaveTime := by
    show echo.state.core.lastSaveTime = game.state.core.lastSaveTime
    rw [h.core_eq]
  unfold stepOf
  rw [hlast]

/-- A look at the current scene is no difference. -/
theorem enter (h : Echoes game echo) {scene : Scene}
    (hscene : scene.id = game.state.currentSceneId) :
    Echoes { game with state := game.state.visit scene.id } echo := by
  refine ⟨h.activity_eq, h.index_eq, h.core_eq, h.log_eq, fun id hid => ?_, fun id hid => ?_⟩
  · rw [State.hasVisited_visit, h.visited_of_echo id hid, Bool.or_true]
  · -- The scene that is entered is the current one, which the other may lack.
    rw [State.hasVisited_visit, Bool.or_eq_true, decide_eq_true_eq] at hid
    rcases hid with hid | hid
    · exact .inr (hid.trans hscene)
    · exact h.visited_of_game id hid

/-- Marking an objective is no difference. -/
theorem complete (h : Echoes game echo) (objective : String) :
    Echoes (game.complete objective).2 echo := by
  obtain ⟨objectives, hstate⟩ := State.exists_complete_eq game.state objective
  unfold Game.complete
  rw [hstate]
  exact ⟨h.activity_eq, h.index_eq, h.core_eq, h.log_eq, h.visited_of_echo, h.visited_of_game⟩

/-- Both may take the same choice. The scene that a look had entered early is entered by both. -/
theorem after (h : Echoes game echo) {activity : Activity} {rules : Rules}
    (hgame : OnStory activity rules game) {scene : Scene} (hpeek : game.peek = some scene)
    (choice : Choice) (now : Instant) :
    Echoes (game.after scene choice now) (echo.after scene choice now) := by
  have hending : echo.leadsToEnding choice.nextSceneId = game.leadsToEnding choice.nextSceneId := by
    unfold leadsToEnding
    rw [h.scene?_eq]
  have hscene : scene.id = game.state.currentSceneId := hgame.id_of_peek hpeek
  refine ⟨?_, ?_, core_after_congr h.core_eq scene choice now, ?_, fun id hid => ?_,
    fun id hid => ?_⟩
  · rw [after_eq, after_eq]
    exact h.activity_eq
  · rw [after_eq, after_eq]
    exact h.index_eq
  · rw [after_log, after_log, h.log_eq, h.stepOf_eq]
  · -- Both enter the same scenes now.
    rw [hasVisited_after] at hid ⊢
    rw [hending] at hid
    have := h.visited_of_echo id
    grind
  · -- The choice enters its own scene, so the other catches up.
    left
    rw [hasVisited_after] at hid ⊢
    rw [hending]
    have := h.visited_of_game id
    grind

end Echoes

/-! ## The replay follows the game -/

/-- The answers of a play that goes on are those up to there and those from there on. -/
theorem run_append (game : Game) (moves more : List (Readings × Move)) :
    (game.run (moves ++ more)).1 = (game.run moves).1 ++ ((game.played moves).run more).1 := by
  induction moves generalizing game with
  | nil => rfl
  | cons m moves ih => exact congrArg (_ :: ·) (ih (game.step m.1 m.2).2)

/-- A replay from `fresh` of the log of a game: it is taken in full, and ends where the game
stands. -/
structure Replayed (fresh game : Game) : Prop where
  accepted : ∀ answer ∈ (fresh.run (game.log.map Step.move)).1, ∃ o, answer = .outcome o
  echoes : Echoes game (fresh.played (game.log.map Step.move))

/-- A choice of the game is followed by the replay of the step that it logs. -/
theorem Replayed.take {activity : Activity} {rules : Rules} {fresh game : Game}
    (h : Replayed fresh game) (hgame : OnStory activity rules game) {choiceId : String}
    {scene : Scene} {choice : Choice} (hpeek : game.peek = some scene)
    (hchoice : scene.choice? choiceId = some choice) (now : Instant) :
    Replayed fresh (game.after scene choice now) := by
  -- The log names the choice by its own id, which finds it again.
  have hid : choice.id = choiceId := by simpa using List.find?_some hchoice
  have hfind : game.find choice.id = .ok (scene, choice) :=
    find_eq_ok_iff.2 ⟨hpeek, hid ▸ hchoice⟩
  have htake := step_choose_ok ((h.echoes.find_eq choice.id).trans hfind) (.still now)
  constructor
  · -- The step adds its own answer to those of the log so far.
    rw [after_log, List.map_append, run_append]
    intro answer hanswer
    rcases List.mem_append.1 hanswer with hanswer | hanswer
    · exact h.accepted answer hanswer
    · have hlast : answer = ((fresh.played (game.log.map Step.move)).step (.still now)
          (.choose choice.id)).1 := List.mem_singleton.1 hanswer
      rw [htake] at hlast
      exact ⟨_, hlast⟩
  · -- The replay goes one step on from where it stood.
    have hlast : (fresh.played (game.log.map Step.move)).played
        ([game.stepOf scene choice now].map Step.move) =
        (fresh.played (game.log.map Step.move)).after scene choice now :=
      congrArg Prod.snd htake
    rw [after_log, List.map_append, played_append, hlast]
    exact h.echoes.after hgame hpeek choice now

/-- One move of the game is followed by the replay of the step that it logs, if any. -/
theorem replayed_step {activity : Activity} {rules : Rules} {fresh game : Game} (clock : Readings)
    (move : Move) (hmove : move.isLoad = false) (hgame : OnStory activity rules game)
    (h : Replayed fresh game) : Replayed fresh (game.step clock move).2 := by
  have hchange := change_step game clock move
  generalize (game.step clock move).2 = next at hchange ⊢
  cases hchange with
  | stay => exact h
  | enter _ hpeek => exact ⟨h.accepted, h.echoes.enter (hgame.id_of_peek hpeek)⟩
  | complete objective => exact ⟨h.accepted, h.echoes.complete objective⟩
  | load snapshot => cases hmove
  | take hpeek hchoice => exact h.take hgame hpeek hchoice clock.first

/-- A fresh game of a story replays itself. -/
private theorem replayed_start (activity : Activity) (rules rules' : Rules)
    (initial : InitialState) (now : Instant) :
    Replayed (start activity rules' initial now) (start activity rules initial now) :=
  ⟨fun _ h => absurd h (List.not_mem_nil),
    ⟨rfl, rfl, rfl, rfl, fun _ h => h, fun _ h => .inl h⟩⟩

/-- A fresh game replays any play of its story. -/
theorem replayed_played (activity : Activity) (rules rules' : Rules) (initial : InitialState)
    (now : Instant) (moves : List (Readings × Move)) (hmoves : ∀ m ∈ moves, m.2.isLoad = false) :
    Replayed (start activity rules' initial now)
      ((start activity rules initial now).played moves) :=
  unloaded_induction (Replayed (start activity rules' initial now))
    (fun _ clock move hmove hgame h => replayed_step clock move hmove hgame h) initial now moves
    hmoves (replayed_start activity rules rules' initial now)

/-- A fresh game of the story, built from the same initial state at the same time and given only the
choices of the log, each at its time, takes all of them. It ends with the same log, in the same
scene, and with the same things, flags, relationships, counters and times. Of the scenes that were
entered it can only lack the current one. -/
theorem replay_log (activity : Activity) (rules rules' : Rules) (initial : InitialState)
    (now : Instant) (moves : List (Readings × Move)) (hmoves : ∀ m ∈ moves, m.2.isLoad = false) :
    let game := (start activity rules initial now).played moves
    let fresh := start activity rules' initial now
    let replay := game.log.map Step.move
    let s := (fresh.played replay).state
    (∀ answer ∈ (fresh.run replay).1, ∃ o, answer = .outcome o) ∧
    (fresh.played replay).log = game.log ∧
    s.currentSceneId = game.state.currentSceneId ∧ s.inventory = game.state.inventory ∧
    s.flags = game.state.flags ∧ s.relationships = game.state.relationships ∧
    s.totalChoices = game.state.totalChoices ∧ s.totalPoints = game.state.totalPoints ∧
    s.startTime = game.state.startTime ∧ s.lastSaveTime = game.state.lastSaveTime ∧
    (∀ id, s.hasVisited id → game.state.hasVisited id) ∧
    ∀ id, game.state.hasVisited id → s.hasVisited id ∨ id = game.state.currentSceneId := by
  intro game fresh replay s
  obtain ⟨accepted, echoes⟩ := replayed_played activity rules rules' initial now moves hmoves
  -- The cores agree, so each part of them does.
  obtain ⟨hcurrent, hinventory, hflags, hrelationships, -, hchoices, hpoints, hstart, hlast, -⟩ :=
    State.mk.injEq .. ▸ echoes.core_eq
  exact ⟨accepted, echoes.log_eq, hcurrent, hinventory, hflags, hrelationships, hchoices, hpoints,
    hstart, hlast, echoes.visited_of_echo, echoes.visited_of_game⟩

/-! ### A crooked story -/

/-- A story with a repeated scene, a repeated choice and a choice that leads nowhere. -/
def crookedStory : Activity where
  id := "crooked"
  title := "Crooked"
  startingSceneId := "start"
  scenes :=
    [{ id := "start", title := "Start", description := ""
       choices := [{ id := "walk", text := "Walk on", nextSceneId := "hall", points := some 5 }] },
     { id := "hall", title := "Hall", description := ""
       choices :=
        [{ id := "search", text := "Search", nextSceneId := "hall"
           actions := [{ effect := .addItem "key" }] },
         { id := "search", text := "Search again", nextSceneId := "start" },
         { id := "open", text := "Open", nextSceneId := "void" }] },
     { id := "hall", title := "Another hall", description := "", isEnding := true }]

/-- A play of the crooked story with looks, two refused choices and an objective. -/
def crookedMoves : List (Readings × Move) :=
  [(.epoch, .look), (.epoch, .choose "fly"), (.epoch, .choose "walk"), (.epoch, .choices),
    (.epoch, .choose "search"), (.epoch, .complete "escape"), (.epoch, .choose "open"),
    (.epoch, .choose "open")]

/-- The play of the crooked story logs three choices, which lead the replay to the same place. -/
theorem replay_crookedStory :
    (∀ m ∈ crookedMoves, m.2.isLoad = false) ∧
    let game := (start crookedStory {} {} .epoch).played crookedMoves
    let replayed := (start crookedStory {} {} .epoch).played (game.log.map Step.move)
    game.log.map (·.choiceId) = ["walk", "search", "open"] ∧ replayed.log = game.log ∧
    replayed.state.currentSceneId = "void" ∧ replayed.state.hasItem "key" = true ∧
    ∀ id, game.state.hasVisited id → replayed.state.hasVisited id ∨ id = "void" := by
  have hmoves : ∀ m ∈ crookedMoves, m.2.isLoad = false := by decide
  refine ⟨hmoves, ?_⟩
  intro game replayed
  obtain ⟨-, hlog, hscene, hinventory, -, -, -, -, -, -, -, hvisited⟩ :=
    replay_log crookedStory {} {} {} .epoch crookedMoves hmoves
  have hvoid : game.state.currentSceneId = "void" := by decide
  have hkey : game.state.hasItem "key" = true := by decide
  refine ⟨by decide, hlog, hscene.trans hvoid, ?_, fun id hid => hvoid ▸ hvisited id hid⟩
  unfold State.hasItem at hkey ⊢
  rw [hinventory]
  exact hkey

end Game

end Gamebook
