import Gamebook.Play.Rules
import Gamebook.Play.Snapshot

/-!
# Scores

The result of a game: points and bonuses, achievements, feedback and recommendations. A score can be
worked out at any moment; the time that has passed counts up to then.
-/

namespace Gamebook

/-- A milestone of a game. -/
inductive Achievement where
  | highScorer
  | thoroughExplorer
  | sceneMaster
  | efficientLearner
  deriving Repr, DecidableEq

namespace Achievement

/-- The name of an achievement. -/
def name : Achievement → String
  | highScorer => "high_scorer"
  | thoroughExplorer => "thorough_explorer"
  | sceneMaster => "scene_master"
  | efficientLearner => "efficient_learner"

/-- All achievements. -/
def all : List Achievement := [highScorer, thoroughExplorer, sceneMaster, efficientLearner]

/-- Achievements in JSON. -/
def form : Form Achievement := .choice (all.map fun a => (a.name, a)) name

end Achievement

/-- How well a game went. -/
inductive Tier where
  | exceptional
  | veryGood
  | good
  | keepLearning
  deriving Repr, DecidableEq

namespace Tier

/-- The tier of a final score. -/
def ofScore (rules : Rules) (score : Float) : Tier :=
  if rules.exceptionalScore ≤ score then exceptional
  else if rules.veryGoodScore ≤ score then veryGood
  else if rules.goodScore ≤ score then good
  else keepLearning

/-- The name of a tier. -/
def name : Tier → String
  | exceptional => "exceptional"
  | veryGood => "very_good"
  | good => "good"
  | keepLearning => "keep_learning"

/-- What the player is told. -/
def message : Tier → String
  | exceptional => "Exceptional work! You mastered the material and made outstanding choices."
  | veryGood => "Very good! You showed a strong understanding of the concepts."
  | good => "Good job! You completed the adventure and learned along the way."
  | keepLearning => "Keep learning! Review the material and try the adventure again."

/-- Tiers in JSON. -/
def form : Form Tier :=
  .choice ([exceptional, veryGood, good, keepLearning].map fun t => (t.name, t)) name

end Tier

/-- The recommendation after hasty choices. -/
def slowDown : String := "Take more time to read each scene and think about your choices."

/-- The recommendation while objectives are open. -/
def focusOnObjectives : String := "Focus on completing the learning objectives."

/-- The recommendation after too few scenes. -/
def exploreMore : String := "Explore more scenes to discover additional learning content."

/-- The mean of a list of doubles, added up in order. -/
def mean? (values : List Float) : Option Float :=
  if values.isEmpty then none
  else some (values.foldl (· + ·) 0 / Decimal.ofNat values.length)

/-- The result of a game. -/
structure Score where
  /-- The points and all bonuses. -/
  finalScore : Float
  totalPoints : UInt32
  timeBonus : UInt32
  educationalBonus : Float
  objectiveBonus : Float
  achievements : List Achievement
  feedback : Tier
  recommendations : List String
  log : List Step
  completedObjectives : List String
  totalChoices : UInt32
  /-- The number of scenes that were visited. -/
  visitedScenes : UInt64
  /-- The number of scenes in the activity. -/
  totalScenes : UInt64
  totalTimeMillis : UInt64
  deriving DecidableEq

namespace Score

/-- The bonus for speed: a point less for each full minute. -/
def timeBonusAt (rules : Rules) (startTime now : Instant) : UInt32 :=
  subCapped rules.timeBonusMinutes
    (UInt32.ofNat (min maxUInt32 (now.millisSince startTime / 60000)))

/-- The bonus for the mean educational value of the steps. -/
def educationalBonusOf (rules : Rules) (log : List Step) : Float :=
  match mean? (log.map fun step => Decimal.ofNat step.educationalValue.toNat) with
  | some m => m * rules.educationalBonusWeight
  | none => 0

/-- The bonus for the part of the objectives that is complete. -/
def objectiveBonusOf (rules : Rules) (completed declared : Nat) : Float :=
  if declared = 0 then 0
  else Decimal.ofNat completed / Decimal.ofNat declared * rules.objectiveBonusWeight

/-- The achievements of a game. -/
def achievementsOf (activity : Activity) (rules : Rules) (state : State) (log : List Step) :
    List Achievement :=
  (if rules.highScorerPoints < state.totalPoints then [.highScorer] else []) ++
  (if rules.thoroughExplorerSteps.toNat < log.length then [.thoroughExplorer] else []) ++
  (if state.visited.size = activity.scenes.length then [.sceneMaster] else []) ++
  (if state.totalChoices < rules.efficientLearnerChoices then [.efficientLearner] else [])

/-- Whether the choices were made too quickly. -/
def isHasty (rules : Rules) (log : List Step) : Bool :=
  (mean? (log.map fun step => step.timeSpent.toFloat)).any
    fun m => m < rules.hastyChoiceMillis.toFloat

/-- Whether too few scenes were visited. -/
def isNarrow (activity : Activity) (rules : Rules) (state : State) : Bool :=
  !activity.scenes.isEmpty &&
    decide (Decimal.ofNat state.visited.size / Decimal.ofNat activity.scenes.length
      < rules.explorationRatio)

/-- What to do better in the next game. -/
def recommendationsOf (activity : Activity) (rules : Rules) (state : State) (log : List Step) :
    List String :=
  (if isHasty rules log then [slowDown] else []) ++
  (if state.completedObjectives.length < activity.objectives.length then [focusOnObjectives]
    else []) ++
  (if isNarrow activity rules state then [exploreMore] else [])

/-- The score of a game at a moment. -/
def compute (activity : Activity) (rules : Rules) (state : State) (log : List Step)
    (now : Instant) : Score :=
  let timeBonus := timeBonusAt rules state.startTime now
  let educationalBonus := educationalBonusOf rules log
  let objectiveBonus :=
    objectiveBonusOf rules state.completedObjectives.length activity.objectives.length
  let finalScore := Decimal.ofNat state.totalPoints.toNat + Decimal.ofNat timeBonus.toNat +
    educationalBonus + objectiveBonus
  { finalScore
    totalPoints := state.totalPoints
    timeBonus
    educationalBonus
    objectiveBonus
    achievements := achievementsOf activity rules state log
    feedback := Tier.ofScore rules finalScore
    recommendations := recommendationsOf activity rules state log
    log
    completedObjectives := state.completedObjectives
    totalChoices := state.totalChoices
    visitedScenes := state.visited.size.toUInt64
    totalScenes := activity.scenes.length.toUInt64
    totalTimeMillis := (now.millisSince state.startTime).toUInt64 }

/-- Whether an achievement was earned. -/
def has (score : Score) (achievement : Achievement) : Bool :=
  score.achievements.contains achievement

/-! ## In JSON -/

/-- The fields of a score. -/
def fields : Fields [Float, UInt32, UInt32, Float, Float, List Achievement, Tier, List String,
    List Step, List String, UInt32, UInt64, UInt64, UInt64] :=
  .cons (.required "finalScore" .float) <|
  .cons (.required "totalPoints" .uint32) <|
  .cons (.required "timeBonus" .uint32) <|
  .cons (.required "educationalBonus" .float) <|
  .cons (.required "objectiveBonus" .float) <|
  .cons (.required "achievements" (.list Achievement.form)) <|
  .cons (.required "feedback" Tier.form) <|
  .cons (.required "recommendations" (.list .text)) <|
  .cons (.required "progressHistory" (.list Step.form)) <|
  .cons (.required "completedObjectives" (.list .text)) <|
  .cons (.required "totalChoices" .uint32) <|
  .cons (.required "visitedScenes" .count) <|
  .cons (.required "totalScenes" .count) <|
  .cons (.required "totalTimeMs" .uint64) .nil

/-- Scores in JSON. -/
def form : Form Score :=
  (Form.record "NarrativeResult" fields).map
    (fun (finalScore, totalPoints, timeBonus, educationalBonus, objectiveBonus, achievements,
        feedback, recommendations, log, completedObjectives, totalChoices, visitedScenes,
        totalScenes, totalTimeMillis, ()) =>
      { finalScore, totalPoints, timeBonus, educationalBonus, objectiveBonus, achievements,
        feedback, recommendations, log, completedObjectives, totalChoices, visitedScenes,
        totalScenes, totalTimeMillis })
    (fun s => (s.finalScore, s.totalPoints, s.timeBonus, s.educationalBonus, s.objectiveBonus,
      s.achievements, s.feedback, s.recommendations, s.log, s.completedObjectives, s.totalChoices,
      s.visitedScenes, s.totalScenes, s.totalTimeMillis, ()))

end Score

end Gamebook
