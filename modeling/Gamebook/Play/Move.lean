import Gamebook.Play.Game

/-!
# Moves

The operations on a game as data, so that whole plays can be spoken of: a play is a list of moves,
each with what the clock shows while it is made.
-/

namespace Gamebook

/-- Something that is done with a game. -/
inductive Move where
  /-- Look at the scene, which enters it. -/
  | look
  | peek
  /-- Ask for the choices on offer, which enters the scene. -/
  | choices
  | peekChoices
  | holds (conditions : List Condition)
  | choose (choiceId : String)
  | complete (objective : String)
  | isComplete
  | score
  | save
  | load (snapshot : Snapshot)
  deriving DecidableEq

/-- What a move gives. -/
inductive Answer where
  | scene (scene : Option Scene)
  | choices (choices : List Choice)
  | truth (b : Bool)
  | outcome (outcome : Outcome)
  | refused (refusal : Refusal)
  | score (score : Score)
  | snapshot (snapshot : Snapshot)
  | done
  deriving DecidableEq

namespace Game

/-- Makes a move. -/
def step (game : Game) (clock : Readings) : Move → Answer × Game
  | .look => let (scene, game) := game.look; (.scene scene, game)
  | .peek => (.scene game.peek, game)
  | .choices => let (choices, game) := game.choices; (.choices choices, game)
  | .peekChoices => (.choices game.peekChoices, game)
  | .holds conditions => (.truth (game.holds conditions), game)
  | .choose choiceId =>
    match game.choose clock choiceId with
    | (.ok outcome, game) => (.outcome outcome, game)
    | (.error refusal, game) => (.refused refusal, game)
  | .complete objective => let (wasOpen, game) := game.complete objective; (.truth wasOpen, game)
  | .isComplete => (.truth game.isComplete, game)
  | .score => (.score (game.score clock.first), game)
  | .save => (.snapshot game.save, game)
  | .load snapshot => (.done, game.load snapshot)

/-- Makes moves one after the other. -/
def run (game : Game) : List (Readings × Move) → List Answer × Game
  | [] => ([], game)
  | (clock, move) :: moves =>
    let (answer, game) := game.step clock move
    let (answers, game) := game.run moves
    (answer :: answers, game)

end Game

end Gamebook
