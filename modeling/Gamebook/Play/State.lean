import Gamebook.Keyed
import Gamebook.Story.Activity
import Gamebook.Time.Instant
import Gamebook.Word

/-!
# The state of a game

Everything that is known about a player in the middle of a story.
-/

namespace Gamebook

/-- What is known about a player. -/
structure State where
  /-- The scene the player is in. -/
  currentSceneId : String
  /-- Whether items are carried; those that were given away stay listed. -/
  inventory : Keyed Bool
  flags : Keyed FlagValue
  relationships : Keyed Int64
  /-- The scenes that were ever entered. -/
  visited : NameSet
  /-- The number of choices taken. -/
  totalChoices : UInt32
  totalPoints : UInt32
  startTime : Instant
  /-- When a choice was last taken. -/
  lastSaveTime : Instant
  /-- The objectives that were marked as complete. -/
  completedObjectives : List String
  deriving DecidableEq

/-- A step of the log: a choice that was taken. -/
structure Step where
  sceneId : String
  choiceId : String
  /-- When the choice was taken. -/
  timestamp : Instant
  /-- The milliseconds since the choice before. -/
  timeSpent : UInt64
  educationalValue : UInt32
  deriving DecidableEq

/-- Where a game may start, other than at the beginning. -/
structure InitialState where
  currentSceneId : Option String := none
  inventory : Keyed Bool := .empty
  flags : Keyed FlagValue := .empty
  relationships : Keyed Int64 := .empty
  visited : NameSet := .empty
  totalChoices : UInt32 := 0
  totalPoints : UInt32 := 0
  startTime : Option Instant := none
  lastSaveTime : Option Instant := none
  completedObjectives : List String := []

namespace State

/-- The state at the start of a game. What the initial state leaves open is taken from the starting
scene and the present time. -/
def start (initial : InitialState) (sceneId : String) (now : Instant) : State :=
  let startTime := initial.startTime.getD now
  { currentSceneId := initial.currentSceneId.getD sceneId
    inventory := initial.inventory
    flags := initial.flags
    relationships := initial.relationships
    visited := initial.visited
    totalChoices := initial.totalChoices
    totalPoints := initial.totalPoints
    startTime
    lastSaveTime := initial.lastSaveTime.getD startTime
    completedObjectives := initial.completedObjectives }

/-! ## What is known -/

/-- Whether an item is carried. -/
def hasItem (s : State) (item : String) : Bool := (s.inventory.get? item).getD false

/-- The value of a flag. -/
def flag? (s : State) (flag : String) : Option FlagValue := s.flags.get? flag

/-- The score of a relationship; zero when there is none. -/
def relationship (s : State) (character : String) : Int64 :=
  (s.relationships.get? character).getD 0

/-- Whether a scene has been entered. -/
def hasVisited (s : State) (scene : String) : Bool := s.visited.contains scene

/-- What conditions can learn. -/
def facts (s : State) : Facts where
  hasItem := s.hasItem
  flag? := s.flag?
  relationship := s.relationship
  hasVisited := s.hasVisited
  points := s.totalPoints

/-! ## Changes -/

/-- Enters a scene. -/
def visit (s : State) (scene : String) : State := { s with visited := s.visited.add scene }

/-- Adds points. -/
def addPoints (s : State) (points : UInt32) : State :=
  { s with totalPoints := addCapped s.totalPoints points }

/-- The state after an effect. -/
def apply (s : State) : Effect → State
  | .addItem item => { s with inventory := s.inventory.insert item true }
  | .removeItem item => { s with inventory := s.inventory.insert item false }
  | .setFlag flag value => { s with flags := s.flags.insert flag value }
  | .modifyRelationship character difference =>
    { s with
      relationships :=
        s.relationships.insert character (addClamped (s.relationship character) difference) }
  | .addPoints points => s.addPoints points
  | .unlockScene scene =>
    { s with flags := s.flags.insert (Effect.unlockedFlag scene) (.bool true) }

/-- The state after a list of actions, in order. -/
def applyAll (s : State) (actions : List Action) : State :=
  actions.foldl (fun s a => s.apply a.effect) s

/-- Marks an objective as complete. -/
def complete (s : State) (objective : String) : State :=
  if s.completedObjectives.contains objective then s
  else { s with completedObjectives := s.completedObjectives ++ [objective] }

end State

end Gamebook
