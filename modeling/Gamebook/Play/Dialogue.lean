import Gamebook.Decimal.Whole
import Gamebook.Play.Game
import Gamebook.Play.Report

/-!
# Dialogues

A game as it is played at a terminal: scenes and choices are shown, and choices are typed, by their
number in the list or by their id. What is typed comes from a script or from a console. A console
asks again after an input that is no choice; a script ends there.

`converse` plays a whole list of inputs, each with what the clock shows while its choice is taken.
-/

namespace Gamebook

/-! ## What is shown -/

/-- Lines of a dialogue, which are indented. -/
def indented (lines : List String) : String := Score.unlines (lines.map ("  " ++ ·))

namespace Scene

/-- The title of a scene, with its location. -/
def heading (scene : Scene) : String :=
  scene.title ++ (if scene.location = "" then "" else " [" ++ scene.location ++ "]")

/-- A scene as it is shown to the player. -/
def shown (scene : Scene) : String :=
  "\n" ++
    indented ([scene.heading] ++ (Text.lines scene.description).map Text.trim ++
      match scene.lesson with
      | some lesson => ["Concept: " ++ lesson.concept, lesson.explanation]
      | none => []) ++
    "\n"

end Scene

/-- A reward as it is shown to the player. -/
def Reward.shown : Reward → String
  | badge name => "Badge: " ++ name
  | xp amount => "XP: " ++ toString amount.toNat

/-- The list of choices, numbered from a number on. -/
def menuLines (number : Nat) : List Choice → List String
  | [] => []
  | c :: choices =>
    (toString number ++ ". " ++ c.text ++ " (" ++ c.id ++ ")") :: menuLines (number + 1) choices

/-- What is shown before an input, with the choices that are offered. There are none when the story
cannot go on. -/
structure Prompt where
  text : String
  offered : List Choice

namespace Game

/-- Shows where the player is, which enters the scene. -/
def prompt (game : Game) : Prompt × Game :=
  match game.look with
  | (none, game) =>
    (⟨indented ["The story cannot continue: this scene does not exist."], []⟩, game)
  | (some scene, game) =>
    let (offered, game) := game.choices
    if offered.isEmpty then
      (⟨scene.shown ++ indented ["No choices available."], []⟩, game)
    else
      (⟨scene.shown ++ indented (menuLines 1 offered), offered⟩, game)

end Game

/-- What is shown after a choice was taken. -/
def Outcome.shown (outcome : Outcome) : String :=
  "\n" ++
    indented (outcome.messages ++ outcome.consequence.toList ++
      outcome.feedback.toList.map ("Insight: " ++ ·)) ++
    (if outcome.isComplete then
      match outcome.nextScene with
      | some scene =>
        if scene.isEnding then scene.shown ++ indented (scene.rewards.map Reward.shown) else ""
      | none => ""
    else "")

/-! ## What is typed -/

/-- The id of the choice that an input means. A number always means a position in the list, even if
it is also the id of a choice. -/
def resolve? (input : String) (offered : List Choice) : Option String :=
  match Decimal.count? input with
  | some 0 => none
  | some (n + 1) => offered[n]?.map (·.id)
  | none => (offered.find? (·.id = input)).map (·.id)

/-- Where inputs come from. -/
inductive Source where
  | script
  | console
  deriving Repr, DecidableEq

namespace Source

/-- What is shown while an input is waited for. -/
def cue : Source → String
  | script => ""
  | console => "  > "

/-- What is shown when an input was read: the inputs of a console are seen already. -/
def echo : Source → String → String
  | script, input => "  > " ++ input ++ "\n"
  | console, _ => ""

end Source

/-- How a dialogue ends. -/
inductive Close where
  | finished (score : Score)
  | paused
  | failed (message : String)
  deriving DecidableEq

/-- What follows from an input. -/
structure Turn where
  text : String
  game : Game
  /-- How the dialogue ends, if it does. -/
  close : Option Close

/-- What is said about an input that is no choice. -/
def unknownInputMessage (input : String) : String := "unknown choice: \"" ++ input ++ "\""

/-- Answers an input to a prompt. -/
def Source.turn (source : Source) (offered : List Choice) (game : Game) (clock : Readings)
    (input : String) : Turn :=
  let echo := source.echo input
  if input = "quit" then ⟨echo, game, some .paused⟩
  else match resolve? input offered with
    | none =>
      match source with
      | .script => ⟨echo, game, some (.failed (unknownInputMessage input))⟩
      | .console => ⟨indented ["Unknown choice, try again."], game, none⟩
    | some choiceId =>
      match game.choose clock choiceId with
      | (.error refusal, game) => ⟨echo, game, some (.failed refusal.message)⟩
      | (.ok outcome, game) => ⟨echo ++ outcome.shown, game, outcome.score.map .finished⟩

/-! ## Whole dialogues -/

/-- A dialogue from its beginning to its end. -/
structure Dialogue where
  text : String
  game : Game
  close : Close

/-- Adds what came before to a dialogue. -/
def Dialogue.after (before : String) (dialogue : Dialogue) : Dialogue :=
  { dialogue with text := before ++ dialogue.text }

/-- Plays a game with a list of inputs. It pauses when they run out. -/
def Source.converse (source : Source) (game : Game) : List (Readings × String) → Dialogue
  | [] =>
    let (prompt, game) := game.prompt
    ⟨prompt.text ++ (if prompt.offered.isEmpty then "" else source.cue), game, .paused⟩
  | (clock, input) :: inputs =>
    let (prompt, game) := game.prompt
    if prompt.offered.isEmpty then ⟨prompt.text, game, .paused⟩
    else
      let turn := source.turn prompt.offered game clock input
      let shown := prompt.text ++ source.cue ++ turn.text
      match turn.close with
      | some close => ⟨shown, turn.game, close⟩
      | none => (source.converse turn.game inputs).after shown

/-- The inputs of a script, between its commas. -/
def scriptInputs (script : String) : List String :=
  ((Text.splitAt ',' script).map Text.trim).filter (· ≠ "")

/-- The inputs of a console, one a line. -/
def consoleInputs (text : String) : List String := (Text.lines text).map Text.trim

/-- What is shown at the end of a dialogue. -/
def Close.shown (game : Game) : Close → String
  | finished score => "\n" ++ score.report game.activity.title
  | paused =>
    "\n" ++
      indented ["Story paused after " ++ toString game.state.totalChoices.toNat ++ " choices (" ++
        toString game.state.totalPoints.toNat ++ " points)."]
  | failed _ => ""

end Gamebook
