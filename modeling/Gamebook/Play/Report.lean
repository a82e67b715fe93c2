import Gamebook.Play.Score

/-!
# Reports

A score as a text for people, in Markdown.
-/

namespace Gamebook.Score

/-- A double with one place, as reports write it. -/
def onePlace (x : Float) : String := String.ofList (Decimal.fixedText 1 x)

/-- Lines with line feeds at their ends. -/
def unlines (lines : List String) : String := String.join (lines.map (· ++ "\n"))

/-- A section with a heading and a list, or nothing for an empty list. -/
def listUnder (heading : String) (items : List String) : List String :=
  if items.isEmpty then []
  else ["## " ++ heading, ""] ++ items.map ("- " ++ ·) ++ [""]

/-- The report on a score. -/
def report (score : Score) (title : String) : String :=
  unlines <|
    ["# " ++ title ++ ": Results", "",
      "**Final score**: " ++ onePlace score.finalScore, "",
      score.feedback.message, "",
      "## Breakdown", "",
      "- Points: " ++ toString score.totalPoints.toNat,
      "- Time bonus: " ++ toString score.timeBonus.toNat,
      "- Educational bonus: " ++ onePlace score.educationalBonus,
      "- Objective bonus: " ++ onePlace score.objectiveBonus,
      "- Choices: " ++ toString score.totalChoices.toNat ++ ", scenes visited: " ++
        toString score.visitedScenes.toNat ++ "/" ++ toString score.totalScenes.toNat, ""] ++
    listUnder "Achievements" (score.achievements.map Achievement.name) ++
    listUnder "Recommendations" score.recommendations

end Gamebook.Score
