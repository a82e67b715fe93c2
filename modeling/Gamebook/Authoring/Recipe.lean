import Gamebook.Json.Record

/-!
# Recipes

The pace and the points of generated stories.
-/

namespace Gamebook

/-- The pace and the points of generated stories. -/
structure Recipe where
  /-- Minutes of play for each choice, which set the limit on choices. -/
  minutesPerChoice : Float := 2.5
  /-- The points that open the challenge. -/
  challengeThreshold : UInt32 := 30
  openingPoints : UInt32 := 10
  easyPoints : UInt32 := 10
  mediumPoints : UInt32 := 15
  hardPoints : UInt32 := 20
  /-- Points for going over the material again. -/
  practicePoints : UInt32 := 10
  challengePoints : UInt32 := 50
  /-- The relationship with the mentor that allows asking for a hint. -/
  hintRelationship : Int64 := 2
  /-- Points for a choice of a quick scene that names none. -/
  quickChoicePoints : UInt32 := 10
  /-- Experience for the success ending. -/
  successXp : UInt32 := 100
  /-- Experience for the alternative ending. -/
  alternativeXp : UInt32 := 50
  deriving DecidableEq

namespace Recipe

/-- The fastest pace there is: half a minute for each choice. -/
def fastestPace : Float := 0.5

/-- A pace that is not faster than the fastest one. What is not a finite number stands for it as
well. -/
def clampPace (minutes : Float) : Float :=
  if Decimal.isFinite minutes && fastestPace < minutes then minutes else fastestPace

/-- Sets the pace. -/
def withMinutesPerChoice (recipe : Recipe) (minutes : Float) : Recipe :=
  { recipe with minutesPerChoice := clampPace minutes }

/-- Sets the points that open the challenge. -/
def withChallengeThreshold (recipe : Recipe) (points : UInt32) : Recipe :=
  { recipe with challengeThreshold := points }

/-- The number of choices that fit into some minutes, the last one begun included. -/
def maxChoicesFor (recipe : Recipe) (minutes : UInt32) : UInt32 :=
  UInt32.ofNat <| Decimal.ceilWithin maxUInt32
    (Decimal.ofNat minutes.toNat / clampPace recipe.minutesPerChoice)

/-! ## In JSON -/

/-- The fields of a recipe, all of which have defaults. -/
def fields : Fields [Float, UInt32, UInt32, UInt32, UInt32, UInt32, UInt32, UInt32, Int64, UInt32,
    UInt32, UInt32] :=
  let usual : Recipe := {}
  .cons (.withDefault "minutesPerChoice" .float usual.minutesPerChoice) <|
  .cons (.withDefault "challengeThreshold" .uint32 usual.challengeThreshold) <|
  .cons (.withDefault "openingPoints" .uint32 usual.openingPoints) <|
  .cons (.withDefault "easyPoints" .uint32 usual.easyPoints) <|
  .cons (.withDefault "mediumPoints" .uint32 usual.mediumPoints) <|
  .cons (.withDefault "hardPoints" .uint32 usual.hardPoints) <|
  .cons (.withDefault "practicePoints" .uint32 usual.practicePoints) <|
  .cons (.withDefault "challengePoints" .uint32 usual.challengePoints) <|
  .cons (.withDefault "hintRelationship" .int64 usual.hintRelationship) <|
  .cons (.withDefault "quickChoicePoints" .uint32 usual.quickChoicePoints) <|
  .cons (.withDefault "successXp" .uint32 usual.successXp) <|
  .cons (.withDefault "alternativeXp" .uint32 usual.alternativeXp) .nil

/-- Recipes in JSON. -/
def form : Form Recipe :=
  (Form.record "BuilderConfig" fields).map
    (fun (minutesPerChoice, challengeThreshold, openingPoints, easyPoints, mediumPoints,
        hardPoints, practicePoints, challengePoints, hintRelationship, quickChoicePoints,
        successXp, alternativeXp, ()) =>
      { minutesPerChoice, challengeThreshold, openingPoints, easyPoints, mediumPoints, hardPoints,
        practicePoints, challengePoints, hintRelationship, quickChoicePoints, successXp,
        alternativeXp })
    (fun r => (r.minutesPerChoice, r.challengeThreshold, r.openingPoints, r.easyPoints,
      r.mediumPoints, r.hardPoints, r.practicePoints, r.challengePoints, r.hintRelationship,
      r.quickChoicePoints, r.successXp, r.alternativeXp, ()))

/-- Reads a recipe from a text. Fields that are absent keep their defaults. -/
def parse (s : String) : Except Json.Problem Recipe := do
  let recipe ← form.parse s
  pure (recipe.withMinutesPerChoice recipe.minutesPerChoice)

end Recipe

end Gamebook
