import Gamebook.Keyed
import Gamebook.Story.Activity

/-!
# Issues of a story

What is wrong with the graph of an activity. Repeated ids and a missing start are errors; choices
that lead nowhere, dead ends and a missing ending are warnings, because a game copes with them.
-/

namespace Gamebook

/-- A defect in the graph of an activity. -/
inductive Defect where
  | repeatedScene (id : String)
  | missingStart (id : String)
  | repeatedChoice (id : String)
  | unknownTarget (choice target : String)
  /-- A scene that is no ending and has no choices. -/
  | deadEnd
  | noEnding
  deriving Repr, DecidableEq

/-- A defect and where it is: a scene, or the activity as a whole. -/
structure Issue where
  scene : Option String
  defect : Defect
  deriving Repr, DecidableEq

namespace Defect

/-- Whether an activity with the defect cannot be played as it was meant. -/
def isError : Defect → Bool
  | repeatedScene _ | missingStart _ | repeatedChoice _ => true
  | unknownTarget _ _ | deadEnd | noEnding => false

/-- What is said about a defect. -/
def message : Defect → String
  | repeatedScene id => "duplicate scene id '" ++ id ++ "'"
  | missingStart id => "starting scene '" ++ id ++ "' does not exist"
  | repeatedChoice id => "duplicate choice id '" ++ id ++ "'"
  | unknownTarget choice target =>
    "choice '" ++ choice ++ "' leads to unknown scene '" ++ target ++ "'"
  | deadEnd => "dead end: not an ending and has no choices"
  | noEnding => "no ending scene"

end Defect

namespace Issue

/-- Whether an issue is an error and not only a warning. -/
def isError (issue : Issue) : Bool := issue.defect.isError

/-- Where an issue is. -/
def location (issue : Issue) : String := issue.scene.getD "activity"

/-- What is said about an issue. -/
def message (issue : Issue) : String := issue.defect.message

/-- An issue as it is shown to authors. -/
def display (issue : Issue) : String :=
  (if issue.isError then "error" else "warning") ++ ": " ++ issue.location ++ ": " ++ issue.message

end Issue

namespace Activity

/-- The ids that repeat an earlier one, in a list of which `seen` came before. -/
def repeats (seen : NameSet) : List String → List String
  | [] => []
  | id :: ids =>
    if seen.contains id then id :: repeats seen ids else repeats (seen.add id) ids

/-- The issues of the choices of a scene, of which those with the ids in `seen` came before. -/
def choiceIssues (scenes : NameSet) (scene : String) (seen : NameSet) : List Choice → List Issue
  | [] => []
  | c :: choices =>
    (if seen.contains c.id then [⟨some scene, .repeatedChoice c.id⟩] else []) ++
    (if scenes.contains c.nextSceneId then []
      else [⟨some scene, .unknownTarget c.id c.nextSceneId⟩]) ++
    choiceIssues scenes scene (seen.add c.id) choices

/-- The issues of a scene. -/
def sceneIssues (scenes : NameSet) (scene : Scene) : List Issue :=
  choiceIssues scenes scene.id Keyed.empty scene.choices ++
    (if scene.isEnding || !scene.choices.isEmpty then [] else [⟨some scene.id, .deadEnd⟩])

/-- The issues of an activity: repeated scenes, a missing start, then those of each scene in turn,
then a missing ending. -/
def issues (activity : Activity) : List Issue :=
  let ids := activity.scenes.map (·.id)
  let scenes := NameSet.ofNames ids
  (repeats Keyed.empty ids).map (fun id => ⟨some id, .repeatedScene id⟩) ++
  (if scenes.contains activity.startingSceneId then []
    else [⟨none, .missingStart activity.startingSceneId⟩]) ++
  activity.scenes.flatMap (sceneIssues scenes) ++
  (if activity.scenes.any (·.isEnding) then [] else [⟨none, .noEnding⟩])

end Activity

end Gamebook
