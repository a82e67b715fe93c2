import Gamebook.Story.Action
import Gamebook.Story.Condition

/-!
# Scenes

The nodes of a story, and the choices that lead from one to another.
-/

namespace Gamebook

/-- How demanding a choice is. -/
inductive Difficulty where
  | easy
  | medium
  | hard
  deriving Repr, DecidableEq

namespace Difficulty

instance : Inhabited Difficulty := ⟨medium⟩

/-- What a step of this difficulty is worth. -/
def base : Difficulty → UInt32
  | easy => 1
  | medium => 2
  | hard => 3

/-- The name of a difficulty. -/
def name : Difficulty → String
  | easy => "easy"
  | medium => "medium"
  | hard => "hard"

/-- The difficulties by name. -/
def cases : List (String × Difficulty) := [easy, medium, hard].map fun d => (d.name, d)

/-- What is said about a name that is no difficulty's. -/
def unknownMessage (name : String) : String :=
  "unknown difficulty '" ++ name ++ "' (expected easy, medium or hard)"

/-- A text with its ASCII letters in lower case. -/
def lowerAscii (s : String) : String := String.ofList (s.toList.map Char.toLower)

/-- The difficulty that a text names, in letters of either case, or what is said when it names
none. -/
def ofText (s : String) : Except String Difficulty :=
  match cases.lookup (lowerAscii s) with
  | some d => .ok d
  | none => .error (unknownMessage (lowerAscii s))

/-- Difficulties in JSON. -/
def form : Form Difficulty := .choice cases name

end Difficulty

/-- What a player is given for reaching a scene. It has no effect on the game. -/
inductive Reward where
  | badge (name : String)
  | xp (amount : UInt32)
  deriving Repr, DecidableEq

namespace Reward

/-- The fields of a badge. -/
def badgeFields : Fields [String] := .cons (.required "name" .text) .nil

/-- The fields of an amount of experience. -/
def xpFields : Fields [UInt32] := .cons (.required "amount" .uint32) .nil

/-- The kinds of reward. -/
def variants : List (Variant Reward) :=
  [{ tag := "badge", label := "Reward::Badge", types := _, fields := badgeFields
     make := fun (name, ()) => .badge name },
   { tag := "xp", label := "Reward::Xp", types := _, fields := xpFields
     make := fun (amount, ()) => .xp amount }]

/-- The JSON value that a reward is written as. -/
def toJson : Reward → Json
  | badge name => Action.taggedObject "badge" (badgeFields.members (name, ()))
  | xp amount => Action.taggedObject "xp" (xpFields.members (amount, ()))

/-- Rewards in JSON. -/
def form : Form Reward := .tagged "Reward" variants toJson

end Reward

/-- A picture, a video or the like. -/
structure Multimedia where
  kind : String
  description : String
  deriving Repr, DecidableEq

namespace Multimedia

/-- The fields of a multimedia resource. -/
def fields : Fields [String, String] :=
  .cons (.required "type" .text) <| .cons (.required "description" .text) .nil

/-- Multimedia resources in JSON. -/
def form : Form Multimedia :=
  (Form.record "Multimedia" fields).map
    (fun (kind, description, ()) => { kind, description })
    (fun m => (m.kind, m.description, ()))

end Multimedia

/-- What is taught in a scene. A game only looks at whether there is such content. -/
structure Lesson where
  concept : String
  explanation : String
  examples : List String := []
  multimedia : Option Multimedia := none
  deriving Repr, DecidableEq

namespace Lesson

/-- The fields of a lesson. -/
def fields : Fields [String, String, List String, Option Multimedia] :=
  .cons (.required "concept" .text) <|
  .cons (.required "explanation" .text) <|
  .cons (.list "examples" .text) <|
  .cons (.optional "multimedia" Multimedia.form) .nil

/-- Lessons in JSON. -/
def form : Form Lesson :=
  (Form.record "EducationalContent" fields).map
    (fun (concept, explanation, examples, multimedia, ()) =>
      { concept, explanation, examples, multimedia })
    (fun l => (l.concept, l.explanation, l.examples, l.multimedia, ()))

end Lesson

/-- A way on from a scene. -/
structure Choice where
  /-- Unique within its scene. -/
  id : String
  text : String
  description : Option String := none
  /-- The scene it leads to. -/
  nextSceneId : String
  /-- All must hold for the choice to be offered. -/
  conditions : List Condition := []
  /-- What happens when it is taken. -/
  actions : List Action := []
  points : Option UInt32 := none
  /-- What is told before the next scene. -/
  consequence : Option String := none
  difficulty : Option Difficulty := none
  feedback : Option String := none
  deriving DecidableEq

namespace Choice

/-- The fields of a choice. -/
def fields : Fields [String, String, Option String, String, List Condition, List Action,
    Option UInt32, Option String, Option Difficulty, Option String] :=
  .cons (.required "id" .text) <|
  .cons (.required "text" .text) <|
  .cons (.optional "description" .text) <|
  .cons (.required "nextSceneId" .text) <|
  .cons (.list "conditions" Condition.form) <|
  .cons (.list "actions" Action.form) <|
  .cons (.optional "points" .uint32) <|
  .cons (.optional "consequence" .text) <|
  .cons (.optional "difficulty" Difficulty.form) <|
  .cons (.optional "educationalFeedback" .text) .nil

/-- Choices in JSON. -/
def form : Form Choice :=
  (Form.record "Choice" fields).map
    (fun (id, text, description, nextSceneId, conditions, actions, points, consequence, difficulty,
        feedback, ()) =>
      { id, text, description, nextSceneId, conditions, actions, points, consequence, difficulty,
        feedback })
    (fun c => (c.id, c.text, c.description, c.nextSceneId, c.conditions, c.actions, c.points,
      c.consequence, c.difficulty, c.feedback, ()))

end Choice

/-- A place in a story. -/
structure Scene where
  /-- Unique within its activity. -/
  id : String
  title : String
  location : String := ""
  description : String
  /-- The choices in the order in which they are shown. -/
  choices : List Choice := []
  /-- What callers should check before they enter; a game does not. -/
  conditions : List Condition := []
  /-- Whether the story ends here. -/
  isEnding : Bool := false
  rewards : List Reward := []
  lesson : Option Lesson := none
  deriving DecidableEq

namespace Scene

/-- The first choice with an id. -/
def choice? (scene : Scene) (id : String) : Option Choice :=
  scene.choices.find? (·.id = id)

/-- Among choices with different ids each one is found under its id. -/
theorem choice?_of_mem {scene : Scene} (hnodup : (scene.choices.map (·.id)).Nodup)
    {choice : Choice} (hchoice : choice ∈ scene.choices) :
    scene.choice? choice.id = some choice := by
  unfold choice?
  generalize scene.choices = choices at hnodup hchoice
  induction choices with
  | nil => exact absurd hchoice List.not_mem_nil
  | cons first rest ih =>
    rw [List.map_cons, List.nodup_cons] at hnodup
    rcases List.mem_cons.1 hchoice with rfl | hrest
    · simp
    · -- The first choice has another id, so the search goes on.
      have hne : ¬ first.id = choice.id := fun heq =>
        hnodup.1 (heq ▸ List.mem_map_of_mem hrest)
      rw [List.find?_cons_of_neg (by simpa using hne)]
      exact ih hnodup.2 hrest

/-- The fields of a scene. -/
def fields : Fields [String, String, String, String, List Choice, List Condition, Bool,
    List Reward, Option Lesson] :=
  .cons (.required "id" .text) <|
  .cons (.required "title" .text) <|
  .cons (.withDefault "location" .text "") <|
  .cons (.required "description" .text) <|
  .cons (.withDefault "choices" (.list Choice.form) []) <|
  .cons (.list "conditions" Condition.form) <|
  .cons (.withDefault "isEnding" .bool false) <|
  .cons (.list "rewards" Reward.form) <|
  .cons (.optional "educationalContent" Lesson.form) .nil

/-- Scenes in JSON. -/
def form : Form Scene :=
  (Form.record "Scene" fields).map
    (fun (id, title, location, description, choices, conditions, isEnding, rewards, lesson, ()) =>
      { id, title, location, description, choices, conditions, isEnding, rewards, lesson })
    (fun s => (s.id, s.title, s.location, s.description, s.choices, s.conditions, s.isEnding,
      s.rewards, s.lesson, ()))

end Scene

end Gamebook
