import Gamebook.Story.Scene

/-!
# Activities

A complete story: its scenes, where it starts, and what it is meant to teach.
-/

namespace Gamebook

/-- A branching story with its learning goals. -/
structure Activity where
  id : String
  title : String
  description : String := ""
  subject : String := ""
  grade : String := ""
  difficulty : Difficulty := .medium
  startingSceneId : String
  scenes : List Scene
  /-- The number of choices after which the story is complete. -/
  maxChoices : Option UInt32 := none
  objectives : List String := []
  /-- The expected time of play in minutes. -/
  duration : UInt32 := 0
  theme : Option String := none
  multimedia : Bool := false
  deriving DecidableEq

namespace Activity

/-- The first scene with an id. -/
def scene? (activity : Activity) (id : String) : Option Scene :=
  activity.scenes.find? (·.id = id)

/-- The scene that the story starts with. -/
def startingScene? (activity : Activity) : Option Scene :=
  activity.scene? activity.startingSceneId

/-- What is said about a scene that is not there. -/
def sceneNotFoundMessage (id : String) : String := "scene not found: \"" ++ id ++ "\""

/-! ## In JSON -/

/-- The fields of an activity. -/
def fields : Fields [String, String, String, String, String, Difficulty, String, List Scene,
    Option UInt32, List String, UInt32, Option String, Bool] :=
  .cons (.required "id" .text) <|
  .cons (.required "title" .text) <|
  .cons (.withDefault "description" .text "") <|
  .cons (.withDefault "subject" .text "") <|
  .cons (.withDefault "grade" .text "") <|
  .cons (.withDefault "difficulty" Difficulty.form .medium) <|
  .cons (.required "startingSceneId" .text) <|
  .cons (.required "availableScenes" (.list Scene.form)) <|
  .cons (.optional "maxChoices" .uint32) <|
  .cons (.withDefault "educationalObjectives" (.list .text) []) <|
  .cons (.withDefault "estimatedDuration" .uint32 0) <|
  .cons (.optional "theme" .text) <|
  .cons (.withDefault "includeMultimedia" .bool false) .nil

/-- Activities in JSON. -/
def form : Form Activity :=
  (Form.record "NarrativeActivity" fields).map
    (fun (id, title, description, subject, grade, difficulty, startingSceneId, scenes, maxChoices,
        objectives, duration, theme, multimedia, ()) =>
      { id, title, description, subject, grade, difficulty, startingSceneId, scenes, maxChoices,
        objectives, duration, theme, multimedia })
    (fun a => (a.id, a.title, a.description, a.subject, a.grade, a.difficulty, a.startingSceneId,
      a.scenes, a.maxChoices, a.objectives, a.duration, a.theme, a.multimedia, ()))

/-- What is said about a text that is no activity. -/
def invalidMessage (problem : Json.Problem) : String :=
  "invalid activity JSON: " ++ problem.message

end Activity

end Gamebook
