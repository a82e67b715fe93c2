import Gamebook.Play.Move

/-!
# Plays

The game that a list of moves leads to, what a single move does to it, and how a property that each
move keeps is kept by a whole play.

## Key results

- `entered_eq` / `look_eq` / `choices_eq`: looking is peeking, in a game whose scene is entered
- `played_induction`: what every allowed move keeps, every play of allowed moves keeps
- `after_state` / `after_log`: what a choice that is taken does to the state and the log
- `choose_ok` / `choose_error`: the two ways in which a choice can go
- `choose_eq_ok_iff`: which choices are taken, and what is given for them
- `change_step`: all that a move can do
- `onStory_played`: a play never changes the story, its index or the rules
- `onStory_induction`: what every allowed move of a story keeps, every play of it keeps
- `unloaded_induction`: the same for plays from the start without loading
- `Past`: how a game came about, which names every game that can be reached
-/

namespace Gamebook

/-- Whether a move puts a saved game in place of the present one. -/
def Move.isLoad : Move → Bool
  | .load _ => true
  | _ => false

namespace Game

/-! ## Entering a scene -/

/-- The game once the scene that the player is in is entered. -/
def entered (game : Game) : Game := game.enter.2

/-- Where the player is in a scene, entering finds the place of that scene and visits it. -/
theorem enter_of_peek {game : Game} {scene : Scene} (hpeek : game.peek = some scene) :
    ∃ position, game.activity.scenes[position]? = some scene ∧
      game.enter = (some position, { game with state := game.state.visit scene.id }) := by
  obtain ⟨position, hindex, hscene⟩ := Option.bind_eq_some_iff.1 hpeek
  exact ⟨position, hscene, by simp only [enter, hindex, hscene]⟩

/-- Where the player is in no scene, there is nothing to enter. -/
theorem enter_of_peek_none {game : Game} (hpeek : game.peek = none) :
    game.enter = (none, game) := by
  unfold peek scene? at hpeek
  unfold enter
  cases hindex : game.index.get? game.state.currentSceneId with
  | none => rfl
  | some position =>
    rw [hindex] at hpeek
    simp only [Option.bind_some] at hpeek
    simp only [hpeek]

/-- Where there is a scene, entering the game visits it. -/
theorem entered_of_peek {game : Game} {scene : Scene} (hpeek : game.peek = some scene) :
    game.entered = { game with state := game.state.visit scene.id } := by
  obtain ⟨position, -, henter⟩ := enter_of_peek hpeek
  rw [entered, henter]

/-- Where there is none, entering the game changes nothing. -/
theorem entered_of_peek_none {game : Game} (hpeek : game.peek = none) : game.entered = game := by
  rw [entered, enter_of_peek_none hpeek]

/-- Entering a scene marks it as visited, and does nothing else. -/
theorem entered_eq (game : Game) :
    game.entered =
      match game.peek with
      | some scene => { game with state := game.state.visit scene.id }
      | none => game := by
  cases hpeek : game.peek with
  | none => exact entered_of_peek_none hpeek
  | some scene => exact entered_of_peek hpeek

/-- Entering a scene does not lead to another one. -/
@[simp] theorem peek_entered (game : Game) : game.entered.peek = game.peek := by
  cases hpeek : game.peek with
  | none => rw [entered_of_peek_none hpeek, hpeek]
  | some scene =>
    rw [entered_of_peek hpeek]
    exact hpeek

/-- Looking finds the scene that peeking finds. -/
theorem look_eq (game : Game) : game.look = (game.peek, game.entered) := by
  cases hpeek : game.peek with
  | none => simp only [look, entered, enter_of_peek_none hpeek]
  | some scene =>
    obtain ⟨position, hscene, henter⟩ := enter_of_peek hpeek
    simp only [look, entered, henter, hscene]

/-- The choices on offer are those that peeking finds once the scene is entered. -/
theorem choices_eq (game : Game) : game.choices = (game.entered.peekChoices, game.entered) := by
  unfold choices peekChoices
  rw [peek_entered]
  cases hpeek : game.peek with
  | none => simp only [entered, enter_of_peek_none hpeek]
  | some scene =>
    obtain ⟨position, hscene, henter⟩ := enter_of_peek hpeek
    simp only [entered, henter, hscene]

/-! ## Moves one after the other -/

/-- The game after some moves. -/
def played (game : Game) (moves : List (Readings × Move)) : Game := (game.run moves).2

/-- Without moves nothing happens. -/
@[simp] theorem played_nil (game : Game) : game.played [] = game := rfl

/-- The first move is made first. -/
@[simp] theorem played_cons (game : Game) (clock : Readings) (move : Move)
    (moves : List (Readings × Move)) :
    game.played ((clock, move) :: moves) = (game.step clock move).2.played moves := rfl

/-- The first move is answered before the others are made. -/
theorem run_cons (game : Game) (clock : Readings) (move : Move) (moves : List (Readings × Move)) :
    game.run ((clock, move) :: moves) =
      ((game.step clock move).1 :: ((game.step clock move).2.run moves).1,
        ((game.step clock move).2.run moves).2) := rfl

/-- A play may be played in two parts. -/
theorem played_append (game : Game) (moves more : List (Readings × Move)) :
    game.played (moves ++ more) = (game.played moves).played more := by
  induction moves generalizing game with
  | nil => rfl
  | cons m moves ih => exact ih (game.step m.1 m.2).2

/-- What every allowed move keeps, every play of allowed moves keeps. -/
theorem played_induction (P : Game → Prop) (allowed : Move → Prop)
    (hstep : ∀ game clock move, allowed move → P game → P (game.step clock move).2)
    (moves : List (Readings × Move)) (hmoves : ∀ m ∈ moves, allowed m.2) (game : Game)
    (h : P game) : P (game.played moves) := by
  induction moves generalizing game with
  | nil => exact h
  | cons m moves ih =>
    -- The first move keeps it, and then the rest start where that leads.
    have hfirst : P (game.step m.1 m.2).2 :=
      hstep game m.1 m.2 (hmoves m List.mem_cons_self) h
    exact ih (fun m' hm' => hmoves m' (List.mem_cons_of_mem _ hm')) _ hfirst

/-! ## Taking a choice -/

/-- Whether an id is that of an ending. -/
def leadsToEnding (game : Game) (id : String) : Bool := (game.scene? id).any (·.isEnding)

/-- A choice moves the state on and adds one step to the log. The scene that it leads to is entered
at once if it is an ending. -/
theorem after_eq (game : Game) (scene : Scene) (choice : Choice) (now : Instant) :
    game.after scene choice now =
      { game with
        state :=
          if game.leadsToEnding choice.nextSceneId then
            (stateAfter game.state scene choice now).visit choice.nextSceneId
          else stateAfter game.state scene choice now
        log := game.log ++ [game.stepOf scene choice now] } := by
  unfold after leadsToEnding
  dsimp only
  -- The game that has moved on looks up the scene that the choice leads to.
  have hpeek : ∀ log, peek { game with state := stateAfter game.state scene choice now, log } =
      game.scene? choice.nextSceneId := fun _ => rfl
  rw [hpeek]
  cases hnext : game.scene? choice.nextSceneId with
  | none => rfl
  -- The scene that follows is entered at once if it is an ending.
  | some next => cases hending : next.isEnding <;> simp [hending]

/-- A choice is logged last. -/
@[simp] theorem after_log (game : Game) (scene : Scene) (choice : Choice) (now : Instant) :
    (game.after scene choice now).log = game.log ++ [game.stepOf scene choice now] := by
  rw [after_eq]

/-- A choice that leads to an ending enters it. -/
theorem after_state (game : Game) (scene : Scene) (choice : Choice) (now : Instant) :
    (game.after scene choice now).state =
      if game.leadsToEnding choice.nextSceneId then
        (stateAfter game.state scene choice now).visit choice.nextSceneId
      else stateAfter game.state scene choice now := by
  rw [after_eq]

/-- A choice is found if the player is in a scene that has a choice with the id. -/
theorem find_eq_ok_iff {game : Game} {choiceId : String} {scene : Scene} {choice : Choice} :
    game.find choiceId = .ok (scene, choice) ↔
      game.peek = some scene ∧ scene.choice? choiceId = some choice := by
  unfold find
  cases hpeek : game.peek with
  | none => simp
  | some found =>
    cases hchoice : found.choice? choiceId with
    | none => grind
    | some c => grind

/-- A choice that is found is taken. -/
theorem choose_ok {game : Game} {choiceId : String} {scene : Scene} {choice : Choice}
    (hfind : game.find choiceId = .ok (scene, choice)) (clock : Readings) :
    game.choose clock choiceId =
      (.ok (outcome choice (game.after scene choice clock.first) clock.second),
        game.after scene choice clock.first) := by
  simp only [choose, hfind]

/-- A choice that is not found is refused and changes nothing. -/
theorem choose_error {game : Game} {choiceId : String} {refusal : Refusal}
    (hfind : game.find choiceId = .error refusal) (clock : Readings) :
    game.choose clock choiceId = (.error refusal, game) := by
  simp only [choose, hfind]

/-- A choice that is found is taken and told. -/
theorem step_choose_ok {game : Game} {choiceId : String} {scene : Scene} {choice : Choice}
    (hfind : game.find choiceId = .ok (scene, choice)) (clock : Readings) :
    game.step clock (.choose choiceId) =
      (.outcome (outcome choice (game.after scene choice clock.first) clock.second),
        game.after scene choice clock.first) := by
  simp only [step, choose_ok hfind]

/-- A choice that is not found is refused. -/
theorem step_choose_error {game : Game} {choiceId : String} {refusal : Refusal}
    (hfind : game.find choiceId = .error refusal) (clock : Readings) :
    game.step clock (.choose choiceId) = (.refused refusal, game) := by
  simp only [step, choose_error hfind]

/-- A choice is refused exactly if it is not found, and then nothing changes. -/
theorem choose_eq_error_iff {game next : Game} {clock : Readings} {choiceId : String}
    {refusal : Refusal} :
    game.choose clock choiceId = (.error refusal, next) ↔
      game.find choiceId = .error refusal ∧ next = game := by
  cases hfind : game.find choiceId with
  | error other =>
    rw [choose_error hfind]
    grind
  | ok found =>
    rw [choose_ok hfind]
    grind

/-- A choice that is refused changes nothing. -/
theorem eq_of_choose_error {game next : Game} {clock : Readings} {choiceId : String}
    {refusal : Refusal} (h : game.choose clock choiceId = (.error refusal, next)) : next = game :=
  (choose_eq_error_iff.1 h).2

/-- A choice is taken exactly if the scene that the player is in has it. -/
theorem choose_eq_ok_iff {game next : Game} {clock : Readings} {choiceId : String}
    {reply : Outcome} :
    game.choose clock choiceId = (.ok reply, next) ↔
      ∃ scene choice, game.peek = some scene ∧ scene.choice? choiceId = some choice ∧
        next = game.after scene choice clock.first ∧
        reply = outcome choice next clock.second := by
  cases hfind : game.find choiceId with
  | error refusal =>
    rw [choose_error hfind]
    constructor
    · intro h
      cases h
    · rintro ⟨scene, choice, hpeek, hchoice, -⟩
      rw [find_eq_ok_iff.2 ⟨hpeek, hchoice⟩] at hfind
      cases hfind
  | ok found =>
    obtain ⟨scene, choice⟩ := found
    obtain ⟨hpeek, hchoice⟩ := find_eq_ok_iff.1 hfind
    -- The scene and the choice are the ones that were found.
    rw [choose_ok hfind]
    constructor
    · intro h
      cases h
      exact ⟨scene, choice, hpeek, hchoice, rfl, rfl⟩
    · rintro ⟨scene', choice', hpeek', hchoice', rfl, rfl⟩
      obtain rfl : scene = scene' := Option.some.inj (hpeek.symm.trans hpeek')
      obtain rfl : choice = choice' := Option.some.inj (hchoice.symm.trans hchoice')
      rfl

/-! ## What a move can do -/

/-- How a move can change a game: not at all, or by entering the scene, marking an objective,
putting a saved game in its place, or taking a choice that is found. -/
inductive Change (game : Game) (clock : Readings) : Move → Game → Prop
  | stay (move : Move) : Change game clock move game
  | enter {scene : Scene} (move : Move) (hpeek : game.peek = some scene) :
    Change game clock move { game with state := game.state.visit scene.id }
  | complete (objective : String) :
    Change game clock (.complete objective) (game.complete objective).2
  | load (snapshot : Snapshot) : Change game clock (.load snapshot) (game.load snapshot)
  | take {choiceId : String} {scene : Scene} {choice : Choice} (hpeek : game.peek = some scene)
    (hchoice : scene.choice? choiceId = some choice) :
    Change game clock (.choose choiceId) (game.after scene choice clock.first)

/-- Entering a scene is no change where there is none. -/
private theorem change_entered (game : Game) (clock : Readings) (move : Move) :
    game.Change clock move game.entered := by
  rw [entered_eq]
  cases hpeek : game.peek with
  | none => exact .stay move
  | some scene => exact .enter move hpeek

/-- Looking enters the scene. -/
theorem step_look (game : Game) (clock : Readings) :
    game.step clock .look = (.scene game.peek, game.entered) := by
  rw [step, look_eq]

/-- Asking for the choices enters the scene. -/
theorem step_choices (game : Game) (clock : Readings) :
    game.step clock .choices = (.choices game.entered.peekChoices, game.entered) := by
  rw [step, choices_eq]

/-- Every move changes the game in one of these ways. -/
theorem change_step (game : Game) (clock : Readings) (move : Move) :
    game.Change clock move (game.step clock move).2 := by
  -- Each move is what it is named for, but a look where there is no scene and a refused choice.
  cases move with
  | look =>
    rw [step_look]
    exact change_entered game clock .look
  | choices =>
    rw [step_choices]
    exact change_entered game clock .choices
  | complete objective => exact .complete objective
  | load snapshot => exact .load snapshot
  | choose choiceId =>
    cases hfind : game.find choiceId with
    | error refusal =>
      rw [step_choose_error hfind]
      exact .stay _
    | ok found =>
      obtain ⟨scene, choice⟩ := found
      obtain ⟨hpeek, hchoice⟩ := find_eq_ok_iff.1 hfind
      rw [step_choose_ok hfind]
      exact .take hpeek hchoice
  -- The other moves ask without changing anything.
  | _ => exact .stay _

/-! ## What no move changes -/

/-- Whether a game plays a story under some rules, with the index that belongs to the story. -/
structure OnStory (activity : Activity) (rules : Rules) (game : Game) : Prop where
  activity_eq : game.activity = activity
  index_eq : game.index = SceneIndex.ofScenes activity.scenes
  rules_eq : game.rules = rules

variable {activity : Activity} {rules : Rules} {game : Game}

/-- A game starts with the story and the rules that it is given. -/
theorem onStory_startOrResume (activity : Activity) (rules : Rules) (initial : InitialState)
    (snapshot : Option Snapshot) (now : Instant) :
    OnStory activity rules (startOrResume activity rules initial snapshot now) := by
  cases snapshot with
  | none => exact ⟨rfl, rfl, rfl⟩
  | some snapshot => exact ⟨rfl, rfl, rfl⟩

/-- A choice changes neither the story nor the rules. -/
theorem OnStory.after (h : OnStory activity rules game) (scene : Scene) (choice : Choice)
    (now : Instant) : OnStory activity rules (game.after scene choice now) := by
  rw [after_eq]
  exact ⟨h.activity_eq, h.index_eq, h.rules_eq⟩

/-- Entering a scene changes neither the story nor the rules. -/
theorem OnStory.entered (h : OnStory activity rules game) :
    OnStory activity rules game.entered := by
  rw [entered_eq]
  split
  · exact ⟨h.activity_eq, h.index_eq, h.rules_eq⟩
  · exact h

/-- No move changes the story or the rules. -/
theorem onStory_step (clock : Readings) (move : Move) (h : OnStory activity rules game) :
    OnStory activity rules (game.step clock move).2 := by
  have hchange := change_step game clock move
  generalize (game.step clock move).2 = next at hchange ⊢
  cases hchange with
  | stay => exact h
  | enter => exact ⟨h.activity_eq, h.index_eq, h.rules_eq⟩
  | complete => exact ⟨h.activity_eq, h.index_eq, h.rules_eq⟩
  | load => exact ⟨h.activity_eq, h.index_eq, h.rules_eq⟩
  | take => exact h.after _ _ _

/-- A play never changes the story, its index or the rules. -/
theorem onStory_played (moves : List (Readings × Move)) (h : OnStory activity rules game) :
    OnStory activity rules (game.played moves) :=
  played_induction (OnStory activity rules) (fun _ => True)
    (fun _ clock move _ h => onStory_step clock move h) moves (fun _ _ => trivial) game h

/-- What every allowed move of a story keeps, every play of allowed moves keeps. -/
theorem onStory_induction (P : Game → Prop) (allowed : Move → Prop)
    (hstep : ∀ game clock move, allowed move → OnStory activity rules game → P game →
      P (game.step clock move).2)
    (moves : List (Readings × Move)) (hmoves : ∀ m ∈ moves, allowed m.2)
    (hgame : OnStory activity rules game) (h : P game) : P (game.played moves) := by
  have hboth : ∀ game clock (move : Move), allowed move →
      OnStory activity rules game ∧ P game →
      OnStory activity rules (game.step clock move).2 ∧ P (game.step clock move).2 :=
    fun game clock move hmove ⟨hgame, h⟩ =>
      ⟨onStory_step clock move hgame, hstep game clock move hmove hgame h⟩
  exact (played_induction _ allowed hboth moves hmoves game ⟨hgame, h⟩).2

/-- What every move of a story but loading keeps, every play from the start without loading
keeps. -/
theorem unloaded_induction (P : Game → Prop)
    (hstep : ∀ game clock (move : Move), move.isLoad = false → OnStory activity rules game →
      P game → P (game.step clock move).2)
    (initial : InitialState) (now : Instant) (moves : List (Readings × Move))
    (hmoves : ∀ m ∈ moves, m.2.isLoad = false) (h : P (start activity rules initial now)) :
    P ((start activity rules initial now).played moves) :=
  onStory_induction P (·.isLoad = false) hstep moves hmoves
    (onStory_startOrResume activity rules initial none now) h

end Game

/-! ## Games at any point -/

/-- How a game came about: how it was built, from the start or from a snapshot, and the moves that
were made since. -/
structure Past where
  initial : InitialState := {}
  snapshot : Option Snapshot := none
  builtAt : Instant
  moves : List (Readings × Move) := []

namespace Past

/-- The game of a story that came about in some way. -/
def game (past : Past) (activity : Activity) (rules : Rules) : Game :=
  (Game.startOrResume activity rules past.initial past.snapshot past.builtAt).played past.moves

/-- Whatever its past, a game is told by its story and its rules. -/
theorem onStory_game (past : Past) (activity : Activity) (rules : Rules) :
    (past.game activity rules).OnStory activity rules :=
  Game.onStory_played past.moves
    (Game.onStory_startOrResume activity rules past.initial past.snapshot past.builtAt)

end Past

end Gamebook
