import Gamebook.Json.Record

/-!
# Rules of scoring

The weights and thresholds by which a game is scored.
-/

namespace Gamebook

/-- The weights and thresholds by which a game is scored. -/
structure Rules where
  /-- The bonus for speed before the minutes played are taken off. -/
  timeBonusMinutes : UInt32 := 100
  /-- The factor on the mean educational value of the steps. -/
  educationalBonusWeight : Float := 10.0
  /-- The bonus for completing every objective. -/
  objectiveBonusWeight : Float := 50.0
  /-- More points than these make a high scorer. -/
  highScorerPoints : UInt32 := 100
  /-- More steps than these make a thorough explorer. -/
  thoroughExplorerSteps : UInt64 := 10
  /-- Fewer choices than these make an efficient learner. -/
  efficientLearnerChoices : UInt32 := 8
  /-- A mean time per choice below these milliseconds is hasty. -/
  hastyChoiceMillis : UInt64 := 5000
  /-- The part of the scenes that should be visited. -/
  explorationRatio : Float := 0.7
  exceptionalScore : Float := 200.0
  veryGoodScore : Float := 150.0
  goodScore : Float := 100.0
  deriving DecidableEq

namespace Rules

/-- Sets the part of the scenes that should be visited, kept within 0 and 1. What is not a number
stands for the usual part. -/
def withExplorationRatio (rules : Rules) (ratio : Float) : Rules :=
  { rules with
    explorationRatio :=
      if Decimal.isNaN ratio then ({} : Rules).explorationRatio
      else if ratio < 0 then 0
      else if 1 < ratio then 1
      else ratio }

/-! ## In JSON -/

/-- The fields of the rules, all of which have defaults. -/
def fields : Fields [UInt32, Float, Float, UInt32, UInt64, UInt32, UInt64, Float, Float, Float,
    Float] :=
  let usual : Rules := {}
  .cons (.withDefault "timeBonusMinutes" .uint32 usual.timeBonusMinutes) <|
  .cons (.withDefault "educationalBonusWeight" .float usual.educationalBonusWeight) <|
  .cons (.withDefault "objectiveBonusWeight" .float usual.objectiveBonusWeight) <|
  .cons (.withDefault "highScorerPoints" .uint32 usual.highScorerPoints) <|
  .cons (.withDefault "thoroughExplorerSteps" .count usual.thoroughExplorerSteps) <|
  .cons (.withDefault "efficientLearnerChoices" .uint32 usual.efficientLearnerChoices) <|
  .cons (.withDefault "hastyChoiceMs" .uint64 usual.hastyChoiceMillis) <|
  .cons (.withDefault "explorationRatio" .float usual.explorationRatio) <|
  .cons (.withDefault "exceptionalScore" .float usual.exceptionalScore) <|
  .cons (.withDefault "veryGoodScore" .float usual.veryGoodScore) <|
  .cons (.withDefault "goodScore" .float usual.goodScore) .nil

/-- Rules in JSON. -/
def form : Form Rules :=
  (Form.record "EngineConfig" fields).map
    (fun (timeBonusMinutes, educationalBonusWeight, objectiveBonusWeight, highScorerPoints,
        thoroughExplorerSteps, efficientLearnerChoices, hastyChoiceMillis, explorationRatio,
        exceptionalScore, veryGoodScore, goodScore, ()) =>
      { timeBonusMinutes, educationalBonusWeight, objectiveBonusWeight, highScorerPoints,
        thoroughExplorerSteps, efficientLearnerChoices, hastyChoiceMillis, explorationRatio,
        exceptionalScore, veryGoodScore, goodScore })
    (fun r => (r.timeBonusMinutes, r.educationalBonusWeight, r.objectiveBonusWeight,
      r.highScorerPoints, r.thoroughExplorerSteps, r.efficientLearnerChoices, r.hastyChoiceMillis,
      r.explorationRatio, r.exceptionalScore, r.veryGoodScore, r.goodScore, ()))

/-- Reads rules from a text. Fields that are absent keep their defaults. -/
def parse (s : String) : Except Json.Problem Rules := do
  let rules ← form.parse s
  pure (rules.withExplorationRatio rules.explorationRatio)

end Rules

end Gamebook
