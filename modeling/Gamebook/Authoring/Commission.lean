import Gamebook.Authoring.Generator

/-!
# Commissions

What a generator is asked for as data, so that all that one generator ever makes can be spoken of:
it gets one commission after the other, and counts on from each to the next. When a count overflows,
nothing comes of all that it was asked for.
-/

namespace Gamebook

/-- Something that a generator is asked for. -/
inductive Commission where
  /-- A story, with an id from elsewhere. -/
  | story (id title description : String) (brief : Brief)
  /-- The scenes of a story alone. -/
  | scenes (title : String) (brief : Brief)
  | quickScene (title text : String) (choices : List QuickChoice)
  deriving DecidableEq

/-- What a generator makes. -/
inductive Work where
  | story (story : Activity)
  | scenes (scenes : List Scene)
  | quickScene (scene : Scene)
  deriving DecidableEq

/-- The scenes of what was made. -/
def Work.allScenes : Work → List Scene
  | .story made => made.scenes
  | .scenes made => made
  | .quickScene made => [made]

namespace Generator

/-- Makes what is asked for. -/
def make (g : Generator) : Commission → Option (Work × Generator)
  | .story id title description brief => do
    let (story, next) ← g.generate id title description brief
    return (.story story, next)
  | .scenes title brief => do
    let (scenes, next) ← g.generateScenes title brief
    return (.scenes scenes, next)
  | .quickScene title text choices => do
    let (scene, next) ← g.quickScene title text choices
    return (.quickScene scene, next)

/-- Makes one thing after the other. -/
def makeAll (g : Generator) : List Commission → Option (List Work × Generator)
  | [] => some ([], g)
  | commission :: commissions => do
    let (work, next) ← g.make commission
    let (works, last) ← next.makeAll commissions
    return (work :: works, last)

end Generator

end Gamebook
