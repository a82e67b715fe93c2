import Gamebook.Authoring.Recipe
import Gamebook.Authoring.Subject
import Gamebook.Story.Activity
import Gamebook.Text.Capital
import Gamebook.Word

/-!
# Generated stories

A story is generated from a brief: an opening, a lesson for each objective, a challenge that opens
with enough points, and two endings. The scenes stand in a row; the last scene before the challenge
is the gateway, whose ways on are closed until the points suffice, and which offers practice in
place and a way out to the alternative ending.

A generator numbers the scenes and the choices of everything it makes, so no id occurs twice in all
that one generator ever makes. The ids of all scenes of a story are drawn before any scene is made,
so that choices can point forward; those of the choices are drawn as the scenes are made. A count
that goes beyond 32 bits overflows, and nothing is made then.
-/

namespace Gamebook

/-- What a story is to be about. -/
structure Brief where
  subject : Subject
  grade : String := ""
  difficulty : Difficulty := .medium
  /-- One lesson is generated for each. -/
  objectives : List String := []
  /-- The expected time of play in minutes. -/
  duration : UInt32 := 15
  /-- A theme for the opening. -/
  theme : Option String := none
  multimedia : Bool := false
  deriving DecidableEq

/-! ## Numbers -/

/-- A generator: a recipe, and how many scenes and choices it has made. -/
structure Generator where
  recipe : Recipe := {}
  scenes : UInt32 := 0
  choices : UInt32 := 0
  deriving DecidableEq

/-- What is made while a generator counts on, unless a count overflows. -/
abbrev Made (α : Type) : Type := StateT Generator Option α

/-- The next count, if there is one. -/
def countOn (n : UInt32) : Option UInt32 := if n.toNat < maxUInt32 then some (n + 1) else none

/-- The id of the n-th scene of a generator. -/
def sceneId (n : Nat) : String := "scene_" ++ toString n

/-- The id of the n-th choice of a generator. -/
def choiceId (n : Nat) : String := "choice_" ++ toString n

/-- Draws the id of the next scene. -/
def nextSceneId : Made String := do
  let g ← get
  let number ← countOn g.scenes
  set { g with scenes := number }
  return sceneId number.toNat

/-- Draws the id of the next choice. -/
def nextChoiceId : Made String := do
  let g ← get
  let number ← countOn g.choices
  set { g with choices := number }
  return choiceId number.toNat

/-! ## The ids of a story -/

/-- The ids of the scenes of a story. -/
structure Layout where
  opening : String
  lessons : List String
  challenge : String
  success : String
  alternative : String
  deriving Repr, DecidableEq

namespace Layout

/-- The last scene before the challenge. -/
def gateway (l : Layout) : String := l.lessons.getLast?.getD l.opening

/-- The lesson with a position, counted from zero. -/
def lesson (l : Layout) (position : Nat) : String := l.lessons[position]?.getD ""

/-- The scene after the first `n` lessons: the next lesson, or the challenge. -/
def afterLessons (l : Layout) (n : Nat) : String := l.lessons[n]?.getD l.challenge

/-- Draws the ids of the scenes of a story with these objectives. -/
def draw (objectives : List String) : Made Layout := do
  let opening ← nextSceneId
  let lessons ← objectives.mapM fun _ => nextSceneId
  let challenge ← nextSceneId
  let success ← nextSceneId
  let alternative ← nextSceneId
  return { opening, lessons, challenge, success, alternative }

end Layout

/-! ## The scenes -/

/-- All that the scenes of a story are made from, but for their ids. -/
structure Plan where
  recipe : Recipe
  title : String
  brief : Brief

namespace Plan

/-- The flavour of the story. -/
def flavour (p : Plan) : Flavour := Flavour.ofSubject p.brief.subject

/-- The condition on which the challenge opens. -/
def gate (p : Plan) : Condition := .scoreAtLeast p.recipe.challengeThreshold

/-- Choices whose ways are closed until the challenge opens. -/
def gated (p : Plan) (choices : List Choice) : List Choice :=
  choices.map fun c => { c with conditions := c.conditions ++ [p.gate] }

/-- The choice that stays in the gateway and earns points. -/
def practise (p : Plan) (id gateway : String) : Choice where
  id
  text := "Revisit the key ideas"
  description := some "Practise a little more before the challenge."
  nextSceneId := gateway
  actions := [{ effect := .setFlag "practiced" (.bool true) }]
  points := some p.recipe.practicePoints
  difficulty := some .easy
  feedback := some "Practice builds the confidence a challenge demands."

/-- The choice that leaves the gateway for the alternative ending. -/
def leave (p : Plan) (id alternative : String) : Choice where
  id
  text := "Take a different path"
  description := some ("Leave " ++ p.flavour.location 0 ++ " for today.")
  nextSceneId := alternative
  difficulty := some .easy

/-- Makes a scene the gateway: its ways on are closed until the challenge opens, and two choices are
added. -/
def gateForwardChoices (p : Plan) (l : Layout) (scene : Scene) : Made Scene := do
  let practise := p.practise (← nextChoiceId) scene.id
  let leave := p.leave (← nextChoiceId) l.alternative
  return { scene with choices := p.gated scene.choices ++ [practise, leave] }

/-! ### The opening -/

/-- The text of the opening. -/
def openingText (p : Plan) : String :=
  p.flavour.opening ++
    (match p.brief.theme with
      | some theme => " Today's adventure: " ++ theme ++ "."
      | none => "")

/-- A text with spaces for its underscores. -/
def spaced (s : String) : String :=
  String.ofList (s.toList.map fun c => if c = '_' then ' ' else c)

/-- The choice that leads straight on from the opening. -/
def begin (p : Plan) (id next : String) : Choice where
  id
  text := "Begin the investigation"
  description := some "Dive straight into the first task."
  nextSceneId := next
  actions := [{ effect := .addItem p.flavour.starterItem
                message := some ("You received: " ++ spaced p.flavour.starterItem ++ ".") }]
  points := some p.recipe.openingPoints
  difficulty := some .medium

/-- The choice that talks with the mentor first. -/
def greet (p : Plan) (id next : String) : Choice where
  id
  text := "Talk with " ++ p.flavour.mentor
  description := some "Ask your mentor what to look out for."
  nextSceneId := next
  actions := [{ effect := .modifyRelationship p.flavour.mentorKey 1
                message := some (p.flavour.mentor ++ " appreciates your curiosity.") }]
  points := some (p.recipe.openingPoints / 2)
  difficulty := some .easy
  feedback := some "Asking good questions is the first step of every investigation."

/-- The opening with its choices. -/
def openingWith (p : Plan) (l : Layout) (choices : List Choice) : Scene where
  id := l.opening
  title := p.title ++ ": The Beginning"
  location := p.flavour.location 0
  description := p.openingText
  choices

/-- Makes the opening, which is the gateway if there are no lessons. -/
def openingScene (p : Plan) (l : Layout) : Made Scene := do
  let next := l.afterLessons 0
  let begin := p.begin (← nextChoiceId) next
  let greet := p.greet (← nextChoiceId) next
  let scene := p.openingWith l [begin, greet]
  if l.gateway = l.opening then p.gateForwardChoices l scene else return scene

/-! ### Lessons -/

/-- What a lesson teaches. -/
def lessonContent (p : Plan) (objective : String) : Lesson where
  concept := objective
  explanation :=
    p.flavour.mentor ++ " explains how " ++ objective ++ " shows up in the world around you."
  examples :=
    ["Spot " ++ objective ++ " in an everyday situation.",
      "Predict what changes when " ++ objective ++ " is applied differently."]
  multimedia :=
    if p.brief.multimedia then
      some { kind := p.flavour.mediaKind
             description := "Interactive look at " ++ objective }
    else none

/-- The action that marks the objective of a lesson as explored. -/
def markExplored (position : Nat) : Action :=
  { effect := .setFlag ("objective_" ++ toString (position + 1) ++ "_explored") (.bool true) }

/-- The easy choice of a lesson. -/
def observe (p : Plan) (id next : String) (position : Nat) (objective : String) : Choice where
  id
  text := "Observe carefully"
  nextSceneId := next
  actions := [{ effect := .addItem ("notes_" ++ toString (position + 1))
                message := some "You jot down what you see." }]
  points := some p.recipe.easyPoints
  difficulty := some .easy
  feedback := some ("Careful observation is how " ++ objective ++ " is first noticed.")

/-- The medium choice of a lesson. -/
def experiment (p : Plan) (id next : String) (position : Nat) (objective : String) : Choice where
  id
  text := "Run an experiment"
  nextSceneId := next
  actions := [markExplored position]
  points := some p.recipe.mediumPoints
  difficulty := some .medium
  feedback := some ("Testing ideas turns " ++ objective ++ " from theory into evidence.")

/-- The hard choice of a lesson. -/
def analyze (p : Plan) (id next : String) (position : Nat) (objective : String) : Choice where
  id
  text := "Analyze in depth"
  nextSceneId := next
  actions :=
    [markExplored position,
      { effect := .modifyRelationship p.flavour.mentorKey 1
        message := some (p.flavour.mentor ++ " is impressed by your rigour.") }]
  points := some p.recipe.hardPoints
  difficulty := some .hard
  feedback := some ("Deep analysis reveals why " ++ objective ++ " works the way it does.")

/-- A lesson with its choices. It asks for the lesson before it. -/
def lessonWith (p : Plan) (l : Layout) (position : Nat) (objective : String)
    (choices : List Choice) : Scene :=
  let location := p.flavour.location (position + 1)
  { id := l.lesson position
    title := "Objective " ++ toString (position + 1) ++ ": " ++ objective
    location
    description := "At the " ++ location ++ ", a new puzzle about " ++ objective ++ " awaits."
    choices
    conditions := if position = 0 then [] else [.visited (l.lesson (position - 1))]
    lesson := some (p.lessonContent objective) }

/-- Makes the lesson with a position. The last one is the gateway. -/
def lessonScene (p : Plan) (l : Layout) (position : Nat) (objective : String) : Made Scene := do
  let next := l.afterLessons (position + 1)
  let observe := p.observe (← nextChoiceId) next position objective
  let experiment := p.experiment (← nextChoiceId) next position objective
  let analyze := p.analyze (← nextChoiceId) next position objective
  let scene := p.lessonWith l position objective [observe, experiment, analyze]
  if l.gateway = l.lesson position then p.gateForwardChoices l scene else return scene

/-- Makes the lessons from a position on. -/
def lessonScenes (p : Plan) (l : Layout) (position : Nat) : List String → Made (List Scene)
  | [] => return []
  | objective :: objectives => do
    let scene ← p.lessonScene l position objective
    let scenes ← p.lessonScenes l (position + 1) objectives
    return scene :: scenes

/-! ### The challenge and the endings -/

/-- What the challenge brings together. -/
def summary (p : Plan) : String :=
  if p.brief.objectives.isEmpty then "everything you have seen so far"
  else ", ".intercalate p.brief.objectives

/-- The flag that is set when the challenge is solved. -/
def completedFlag : String := "challenge_completed"

/-- The choice that solves the challenge. -/
def solve (p : Plan) (id success : String) : Choice where
  id
  text := "Apply everything you learned"
  nextSceneId := success
  actions :=
    [{ effect := .setFlag completedFlag (.bool true) },
      { effect := .unlockScene success }]
  points := some p.recipe.challengePoints
  difficulty := some .hard
  feedback := some ("Combining " ++ p.summary ++ " is what real problem solving looks like.")

/-- The choice that asks the mentor. -/
def hint (p : Plan) (id success : String) : Choice where
  id
  text := "Ask " ++ p.flavour.mentor ++ " for a hint"
  nextSceneId := success
  conditions := [.relationshipAtLeast p.flavour.mentorKey p.recipe.hintRelationship]
  actions := [{ effect := .setFlag completedFlag (.bool true) }]
  points := some (p.recipe.challengePoints / 2)
  difficulty := some .medium
  feedback := some "Knowing when to ask for help is a skill too."

/-- The choice that gives the challenge up. -/
def retreat (p : Plan) (id alternative : String) : Choice where
  id
  text := "Step back and reflect"
  nextSceneId := alternative
  points := some (p.recipe.practicePoints / 2)
  consequence := some "You decide the challenge can wait."
  difficulty := some .easy

/-- The challenge with its choices. -/
def challengeWith (p : Plan) (l : Layout) (choices : List Choice) : Scene where
  id := l.challenge
  title := "The Final Challenge"
  location := p.flavour.location (p.brief.objectives.length + 1)
  description := p.flavour.challenge
  choices
  conditions := [p.gate]
  lesson := some
    { concept := "Synthesis"
      explanation := "Bring together " ++ p.summary ++ " to solve one problem." }

/-- Makes the challenge. -/
def challengeScene (p : Plan) (l : Layout) : Made Scene := do
  let solve := p.solve (← nextChoiceId) l.success
  let hint := p.hint (← nextChoiceId) l.success
  let retreat := p.retreat (← nextChoiceId) l.alternative
  return p.challengeWith l [solve, hint, retreat]

/-- The rank on the badge for success. -/
def rank : Difficulty → String
  | .easy => "Explorer"
  | .medium => "Investigator"
  | .hard => "Master"

/-- The success ending. -/
def successScene (p : Plan) (l : Layout) : Scene where
  id := l.success
  title := "Mission Accomplished"
  location := p.flavour.location 0
  description := p.flavour.success
  isEnding := true
  rewards :=
    [.badge (Text.capitalized p.brief.subject.name ++ " " ++ rank p.brief.difficulty),
      .xp p.recipe.successXp]

/-- The alternative ending. -/
def alternativeScene (p : Plan) (l : Layout) : Scene where
  id := l.alternative
  title := "A Different Path"
  location := p.flavour.location 0
  description := p.flavour.alternative
  isEnding := true
  rewards := [.xp p.recipe.alternativeXp]

/-! ### The story -/

/-- Makes the scenes of the story. -/
def makeScenes (p : Plan) : Made (List Scene) := do
  let l ← Layout.draw p.brief.objectives
  let opening ← p.openingScene l
  let lessons ← p.lessonScenes l 0 p.brief.objectives
  let challenge ← p.challengeScene l
  return opening :: lessons ++ [challenge, p.successScene l, p.alternativeScene l]

/-- A story with these scenes, and an id from elsewhere. It starts with the first scene. Its limit
on choices is the number of choices that fit into its duration; there is none for no time at all. -/
def activity (p : Plan) (id description : String) (scenes : List Scene) : Activity :=
  let limit := p.recipe.maxChoicesFor p.brief.duration
  { id
    title := p.title
    description
    subject := p.brief.subject.name
    grade := p.brief.grade
    difficulty := p.brief.difficulty
    startingSceneId := (scenes.head?.map (·.id)).getD ""
    scenes
    maxChoices := if limit = 0 then none else some limit
    objectives := p.brief.objectives
    duration := p.brief.duration
    theme := p.brief.theme
    multimedia := p.brief.multimedia }

end Plan

/-! ## What generators make -/

/-- A choice of a quick scene. -/
structure QuickChoice where
  text : String
  nextSceneId : String
  points : Option UInt32 := none
  difficulty : Option Difficulty := none
  deriving DecidableEq

/-- The choice for the description of a quick one. -/
def Recipe.quickChoice (recipe : Recipe) (id : String) (quick : QuickChoice) : Choice where
  id
  text := quick.text
  nextSceneId := quick.nextSceneId
  points := some (quick.points.getD recipe.quickChoicePoints)
  difficulty := some (quick.difficulty.getD .medium)

/-- Makes the choices for a list of descriptions. -/
def Recipe.quickChoices (recipe : Recipe) : List QuickChoice → Made (List Choice)
  | [] => return []
  | quick :: more => do
    let choice := recipe.quickChoice (← nextChoiceId) quick
    let choices ← recipe.quickChoices more
    return choice :: choices

/-- Makes a single scene. -/
def Recipe.quickScene (recipe : Recipe) (title text : String) (choices : List QuickChoice) :
    Made Scene := do
  let id ← nextSceneId
  let choices ← recipe.quickChoices choices
  return { id, title, description := text, choices }

namespace Generator

/-- The plan of a story. -/
def plan (g : Generator) (title : String) (brief : Brief) : Plan :=
  { recipe := g.recipe, title, brief }

/-- Generates the scenes of a story. -/
def generateScenes (g : Generator) (title : String) (brief : Brief) :
    Option (List Scene × Generator) :=
  (g.plan title brief).makeScenes.run g

/-- Generates a story, with an id from elsewhere. -/
def generate (g : Generator) (id title description : String) (brief : Brief) :
    Option (Activity × Generator) := do
  let (scenes, next) ← g.generateScenes title brief
  return ((g.plan title brief).activity id description scenes, next)

/-- Makes a single scene. -/
def quickScene (g : Generator) (title text : String) (choices : List QuickChoice) :
    Option (Scene × Generator) :=
  (g.recipe.quickScene title text choices).run g

end Generator

end Gamebook
