import Gamebook.Play.State
import Gamebook.Time.Stamp

/-!
# Snapshots

A saved game: the state and the log as lists, in a form that always writes the same state as the
same text. Reading accepts lists in any order; the last of several entries under one key counts.
-/

namespace Gamebook

/-- A saved game. -/
structure Snapshot where
  currentSceneId : String
  inventory : List (String × Bool)
  flags : List (String × FlagValue)
  relationships : List (String × Int64)
  visited : List String
  totalChoices : UInt32
  totalPoints : UInt32
  startTime : Instant
  lastSaveTime : Instant
  completedObjectives : List String
  log : List Step
  deriving DecidableEq

namespace Snapshot

/-- The snapshot of a state and its log. -/
def capture (s : State) (log : List Step) : Snapshot where
  currentSceneId := s.currentSceneId
  inventory := s.inventory.entries
  flags := s.flags.entries
  relationships := s.relationships.entries
  visited := s.visited.keys
  totalChoices := s.totalChoices
  totalPoints := s.totalPoints
  startTime := s.startTime
  lastSaveTime := s.lastSaveTime
  completedObjectives := s.completedObjectives
  log

/-- The state that a snapshot holds. -/
def state (snapshot : Snapshot) : State where
  currentSceneId := snapshot.currentSceneId
  inventory := Keyed.ofList snapshot.inventory
  flags := Keyed.ofList snapshot.flags
  relationships := Keyed.ofList snapshot.relationships
  visited := NameSet.ofNames snapshot.visited
  totalChoices := snapshot.totalChoices
  totalPoints := snapshot.totalPoints
  startTime := snapshot.startTime
  lastSaveTime := snapshot.lastSaveTime
  completedObjectives := snapshot.completedObjectives

/-- The state and the log that a snapshot holds. -/
def restore (snapshot : Snapshot) : State × List Step := (snapshot.state, snapshot.log)

end Snapshot

/-! ## In JSON -/

/-- Instants in JSON, as time stamps. -/
def Instant.form : Form Instant :=
  (Form.textOf "an RFC 3339 formatted date and time string").check
    (fun s => match Stamp.read s.toList with
      | .ok t => .ok t
      | .error fault => .error (.mismatch (.badText fault.message)))
    (fun t => String.ofList (Stamp.write t))

namespace Step

/-- The fields of a step. -/
def fields : Fields [String, String, Instant, UInt64, UInt32] :=
  .cons (.required "sceneId" .text) <|
  .cons (.required "choiceId" .text) <|
  .cons (.required "timestamp" Instant.form) <|
  .cons (.required "timeSpent" .uint64) <|
  .cons (.required "educationalValue" .uint32) .nil

/-- Steps in JSON. -/
def form : Form Step :=
  (Form.record "StoryProgress" fields).map
    (fun (sceneId, choiceId, timestamp, timeSpent, educationalValue, ()) =>
      { sceneId, choiceId, timestamp, timeSpent, educationalValue })
    (fun s => (s.sceneId, s.choiceId, s.timestamp, s.timeSpent, s.educationalValue, ()))

end Step

namespace Snapshot

/-- The fields of a snapshot. -/
def fields : Fields [String, List (String × Bool), List (String × FlagValue),
    List (String × Int64), List String, UInt32, UInt32, Instant, Instant, List String,
    List Step] :=
  .cons (.required "currentSceneId" .text) <|
  .cons (.required "inventory" (.list (.pair .text .bool))) <|
  .cons (.required "storyFlags" (.list (.pair .text FlagValue.form))) <|
  .cons (.required "characterRelationships" (.list (.pair .text .int64))) <|
  .cons (.required "visitedScenes" (.list .text)) <|
  .cons (.required "totalChoices" .uint32) <|
  .cons (.required "totalPoints" .uint32) <|
  .cons (.required "startTime" Instant.form) <|
  .cons (.required "lastSaveTime" Instant.form) <|
  .cons (.required "completedObjectives" (.list .text)) <|
  .cons (.required "progressHistory" (.list Step.form)) .nil

/-- Snapshots in JSON. -/
def form : Form Snapshot :=
  (Form.record "SaveState" fields).map
    (fun (currentSceneId, inventory, flags, relationships, visited, totalChoices, totalPoints,
        startTime, lastSaveTime, completedObjectives, log, ()) =>
      { currentSceneId, inventory, flags, relationships, visited, totalChoices, totalPoints,
        startTime, lastSaveTime, completedObjectives, log })
    (fun s => (s.currentSceneId, s.inventory, s.flags, s.relationships, s.visited, s.totalChoices,
      s.totalPoints, s.startTime, s.lastSaveTime, s.completedObjectives, s.log, ()))

/-- What is said about a text that is no snapshot. -/
def invalidMessage (problem : Json.Problem) : String := "invalid save state: " ++ problem.message

end Snapshot

end Gamebook
