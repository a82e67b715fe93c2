import Gamebook.Play.Clock
import Gamebook.Play.Score

/-!
# Games

One player's way through a story. Every operation is a function of the game and, where it needs the
time, of what the clock shows. One that can change the game gives the game that it leaves.
-/

namespace Gamebook

/-! ## Finding scenes -/

/-- Where scenes stand in an activity: the position of the first scene with an id. -/
abbrev SceneIndex := Keyed Nat

/-- The index of a list of scenes, the first of which stands at `position`, added to `index`. -/
def SceneIndex.extend (index : SceneIndex) (position : Nat) : List Scene → SceneIndex
  | [] => index
  | scene :: scenes => extend (index.insertNew scene.id position) (position + 1) scenes

/-- The index of the scenes of an activity. -/
def SceneIndex.ofScenes (scenes : List Scene) : SceneIndex :=
  SceneIndex.extend .empty 0 scenes

/-! ## The game -/

/-- A game in progress. -/
structure Game where
  activity : Activity
  index : SceneIndex
  rules : Rules
  state : State
  /-- The choices that were taken, in order. -/
  log : List Step

/-- Why a choice cannot be taken. -/
inductive Refusal where
  /-- The player is in no scene of the activity. -/
  | noCurrentScene (sceneId : String)
  /-- The scene has no such choice. -/
  | unknownChoice (sceneId choiceId : String)
  deriving Repr, DecidableEq

/-- What is said about a refusal. -/
def Refusal.message : Refusal → String
  | noCurrentScene sceneId =>
    "no current scene: \"" ++ sceneId ++ "\" is not part of the activity"
  | unknownChoice sceneId choiceId =>
    "unknown choice \"" ++ choiceId ++ "\" in scene \"" ++ sceneId ++ "\""

/-- What follows from a choice. -/
structure Outcome where
  /-- The scene that the player comes to, if it exists. -/
  nextScene : Option Scene
  /-- The result, if the story is over. -/
  score : Option Score
  /-- The actions that ran. -/
  actions : List Action
  messages : List String
  consequence : Option String
  feedback : Option String
  deriving DecidableEq

/-- Whether the story is over. -/
def Outcome.isComplete (outcome : Outcome) : Bool := outcome.score.isSome

namespace Game

/-- Puts a game where a snapshot was taken. Nothing of its own state and log is left. -/
def load (game : Game) (snapshot : Snapshot) : Game :=
  { game with state := snapshot.state, log := snapshot.log }

/-- A game from the start. -/
def start (activity : Activity) (rules : Rules) (initial : InitialState) (now : Instant) :
    Game where
  activity
  index := SceneIndex.ofScenes activity.scenes
  rules
  state := State.start initial activity.startingSceneId now
  log := []

/-- A game from the start, or from a snapshot if there is one. -/
def startOrResume (activity : Activity) (rules : Rules) (initial : InitialState)
    (snapshot : Option Snapshot) (now : Instant) : Game :=
  match snapshot with
  | some snapshot => (start activity rules initial now).load snapshot
  | none => start activity rules initial now

/-- A game from the start, or from a snapshot if there is one; or what is said about a story whose
starting scene is not there. -/
def tryStart (activity : Activity) (rules : Rules) (initial : InitialState)
    (snapshot : Option Snapshot) (now : Instant) : Except String Game :=
  if activity.startingScene?.isSome then
    .ok (startOrResume activity rules initial snapshot now)
  else
    .error (Activity.sceneNotFoundMessage activity.startingSceneId)

/-- The scene with an id. -/
def scene? (game : Game) (id : String) : Option Scene :=
  (game.index.get? id).bind fun position => game.activity.scenes[position]?

/-- The scene that the player is in, without entering it. -/
def peek (game : Game) : Option Scene := game.scene? game.state.currentSceneId

/-- Enters the scene that the player is in, and tells where it stands in the activity. -/
def enter (game : Game) : Option Nat × Game :=
  match game.index.get? game.state.currentSceneId with
  | none => (none, game)
  | some position =>
    match game.activity.scenes[position]? with
    | none => (none, game)
    | some scene => (some position, { game with state := game.state.visit scene.id })

/-- Whether conditions hold. -/
def holds (game : Game) (conditions : List Condition) : Bool :=
  Condition.allHold conditions game.state.facts

/-- The choices of a scene that are offered in a state. -/
def offeredIn (state : State) (scene : Scene) : List Choice :=
  scene.choices.filter fun c => Condition.allHold c.conditions state.facts

/-- The choices that are offered, without entering the scene. -/
def peekChoices (game : Game) : List Choice :=
  match game.peek with
  | some scene => offeredIn game.state scene
  | none => []

/-- The scene that the player is in, which is entered. -/
def look (game : Game) : Option Scene × Game :=
  match game.enter with
  | (none, game) => (none, game)
  | (some position, game) => (game.activity.scenes[position]?, game)

/-- The choices that are offered once the scene is entered. -/
def choices (game : Game) : List Choice × Game :=
  match game.enter with
  | (none, game) => ([], game)
  | (some position, game) =>
    match game.activity.scenes[position]? with
    | some scene => (offeredIn game.state scene, game)
    | none => ([], game)

/-- Whether enough objectives are complete. -/
def objectivesDone (game : Game) : Bool :=
  game.activity.objectives.length ≤ game.state.completedObjectives.length

/-- Whether the limit on choices is reached. A limit of zero is none. -/
def limitReached (game : Game) : Bool :=
  game.activity.maxChoices.any fun limit => 0 < limit && limit ≤ game.state.totalChoices

/-- Whether the story is complete. -/
def isComplete (game : Game) : Bool := game.objectivesDone || game.limitReached

/-- The score at a moment. -/
def score (game : Game) (now : Instant) : Score :=
  Score.compute game.activity game.rules game.state game.log now

/-- Marks an objective as complete. Tells whether it was open. -/
def complete (game : Game) (objective : String) : Bool × Game :=
  (!game.state.completedObjectives.contains objective,
    { game with state := game.state.complete objective })

/-- The snapshot of a game. -/
def save (game : Game) : Snapshot := Snapshot.capture game.state game.log

/-! ## Taking a choice -/

/-- What a step is worth: more for a harder choice, for feedback, and for a lesson in the scene. -/
def educationalValue (scene : Scene) (choice : Choice) : UInt32 :=
  (match choice.difficulty with
    | some d => d.base
    | none => 1) +
  (if choice.feedback.any (· ≠ "") then 2 else 0) +
  (if scene.lesson.isSome then 3 else 0)

/-- The step that is logged for a choice. -/
def stepOf (game : Game) (scene : Scene) (choice : Choice) (now : Instant) : Step where
  sceneId := scene.id
  choiceId := choice.id
  timestamp := now
  timeSpent := (now.millisSince game.state.lastSaveTime).toUInt64
  educationalValue := educationalValue scene choice

/-- The state after a choice: the scene is entered, the actions run, the points are added, and the
player moves on. The count of choices starts again at zero when it overflows. -/
def stateAfter (state : State) (scene : Scene) (choice : Choice) (now : Instant) : State :=
  let s := (state.visit scene.id).applyAll choice.actions
  let s := match choice.points with
    | some points => s.addPoints points
    | none => s
  { s with
    totalChoices := s.totalChoices + 1
    currentSceneId := choice.nextSceneId
    lastSaveTime := now }

/-- The game after a choice. An ending is entered at once. -/
def after (game : Game) (scene : Scene) (choice : Choice) (now : Instant) : Game :=
  let moved : Game :=
    { game with
      state := stateAfter game.state scene choice now
      log := game.log ++ [game.stepOf scene choice now] }
  match moved.peek with
  | some next =>
    if next.isEnding then { moved with state := moved.state.visit choice.nextSceneId } else moved
  | none => moved

/-- Whether a game has come to an ending. -/
def atEnding (game : Game) : Bool := game.peek.any (·.isEnding)

/-- The messages of a list of actions. -/
def messagesOf (actions : List Action) : List String := actions.filterMap (·.message)

/-- What follows from a choice that leads to the game `next`. -/
def outcome (choice : Choice) (next : Game) (now : Instant) : Outcome where
  nextScene := next.peek
  score := if next.atEnding || next.isComplete then some (next.score now) else none
  actions := choice.actions
  messages := messagesOf choice.actions
  consequence := choice.consequence
  feedback := choice.feedback

/-- The scene that the player is in and a choice of it, hidden or not. -/
def find (game : Game) (choiceId : String) : Except Refusal (Scene × Choice) :=
  match game.peek with
  | none => .error (.noCurrentScene game.state.currentSceneId)
  | some scene =>
    match scene.choice? choiceId with
    | none => .error (.unknownChoice scene.id choiceId)
    | some choice => .ok (scene, choice)

/-- Takes a choice of the scene that the player is in. The step is logged at the first reading of
the clock, and a result is that of the second. -/
def choose (game : Game) (clock : Readings) (choiceId : String) :
    Except Refusal Outcome × Game :=
  match game.find choiceId with
  | .error refusal => (.error refusal, game)
  | .ok (scene, choice) =>
    let next := game.after scene choice clock.first
    (.ok (outcome choice next clock.second), next)

end Game

end Gamebook
