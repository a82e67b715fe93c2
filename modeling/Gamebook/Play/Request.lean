import Gamebook.Play.Move

/-!
# Requests

All that can be asked of a game: its moves, and questions about what is known, which are answered
from the game as it stands. A list of requests gives a transcript, which holds the reply to each.
-/

namespace Gamebook

/-- Something that is asked of a game. -/
inductive Request where
  | move (move : Move)
  /-- Ask for the whole state. -/
  | state
  | log
  /-- Ask whether an item is carried. -/
  | hasItem (item : String)
  | flag (flag : String)
  | relationship (character : String)
  /-- Ask whether a scene has been entered. -/
  | hasVisited (scene : String)
  | activity
  | rules
  deriving DecidableEq

/-- What is replied to a request. -/
inductive Reply where
  | answer (answer : Answer)
  | state (state : State)
  | log (log : List Step)
  | truth (b : Bool)
  | flag (value : Option FlagValue)
  | relationship (score : Int64)
  | activity (activity : Activity)
  | rules (rules : Rules)
  deriving DecidableEq

/-- What was asked of a game at which time, and the reply. -/
structure Exchange where
  clock : Readings
  request : Request
  reply : Reply
  deriving DecidableEq

namespace Game

/-- Replies to a request. -/
def ask (game : Game) (clock : Readings) : Request → Reply × Game
  | .move move => let (answer, game) := game.step clock move; (.answer answer, game)
  | .state => (.state game.state, game)
  | .log => (.log game.log, game)
  | .hasItem item => (.truth (game.state.hasItem item), game)
  | .flag flag => (.flag (game.state.flag? flag), game)
  | .relationship character => (.relationship (game.state.relationship character), game)
  | .hasVisited scene => (.truth (game.state.hasVisited scene), game)
  | .activity => (.activity game.activity, game)
  | .rules => (.rules game.rules, game)

/-- The transcript of requests that are made one after the other. -/
def transcript (game : Game) : List (Readings × Request) → List Exchange
  | [] => []
  | (clock, request) :: requests =>
    let (reply, next) := game.ask clock request
    ⟨clock, request, reply⟩ :: next.transcript requests

/-- The game after some requests. -/
def asked (game : Game) : List (Readings × Request) → Game
  | [] => game
  | (clock, request) :: requests => (game.ask clock request).2.asked requests

end Game

end Gamebook
