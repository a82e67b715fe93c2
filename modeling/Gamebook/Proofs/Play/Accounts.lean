import Gamebook.Proofs.Play.Effects
import Gamebook.Proofs.Play.SceneIndex
import Mathlib

/-!
# The accounts of a game

The log of a game names the choices that were taken, and each of them is found in the story again.
What the choices are worth adds up to what the player has: the points up to the greatest word, the
number of choices, and the educational value of each step. The scenes of the log follow the choices
from the start of the story to where the player is.

## Key results

- `Edge.gain` / `Edge.worth`: what a choice brings in points, and what its step is worth
- `toNat_totalPoints_after`: a choice adds its gain to the points
- `accounts_step`: each move keeps the accounts
- `accounts_balance`: in every play from the start the log accounts for the state
-/

namespace Gamebook

/-! ## Edges -/

/-- A choice, with the scene that it is made in. -/
structure Edge where
  scene : Scene
  choice : Choice
  deriving DecidableEq

/-- The choice that a step of the log names: the first one with its choice id in the first scene
with its scene id. -/
def Activity.edge? (activity : Activity) (step : Step) : Option Edge :=
  (activity.scene? step.sceneId).bind fun scene =>
    (scene.choice? step.choiceId).map fun choice => ⟨scene, choice⟩

/-- The points in an effect. -/
def Effect.points : Effect → Nat
  | .addPoints points => points.toNat
  | _ => 0

namespace Edge

/-- The points that a choice brings: its own, and those of its actions. -/
def gain (edge : Edge) : Nat :=
  (edge.choice.points.map UInt32.toNat).getD 0 +
    (edge.choice.actions.map (·.effect.points)).sum

/-- The educational value of a step: one, two or three by its difficulty, two more for feedback, and
three more for a lesson in the scene. -/
def worth (edge : Edge) : Nat :=
  (match edge.choice.difficulty with
    | none => 1
    | some .easy => 1
    | some .medium => 2
    | some .hard => 3) +
  (if edge.choice.feedback.getD "" = "" then 0 else 2) +
  (if edge.scene.lesson = none then 0 else 3)

end Edge

/-! ## What a choice adds -/

namespace State

/-- Points are counted in a word. -/
theorem toNat_totalPoints_le (s : State) : s.totalPoints.toNat ≤ maxUInt32 := by
  have hword := s.totalPoints.toNat_lt
  unfold maxUInt32
  omega

/-- Points are added up to the greatest word. -/
theorem toNat_totalPoints_addPoints (s : State) (points : UInt32) :
    (s.addPoints points).totalPoints.toNat =
      min maxUInt32 (s.totalPoints.toNat + points.toNat) :=
  toNat_addCapped s.totalPoints points

/-- An effect adds the points that it brings. -/
theorem toNat_totalPoints_apply (s : State) (effect : Effect) :
    (s.apply effect).totalPoints.toNat = min maxUInt32 (s.totalPoints.toNat + effect.points) := by
  cases effect with
  | addPoints points => exact toNat_totalPoints_addPoints s points
  | _ => exact (Nat.min_eq_right s.toNat_totalPoints_le).symm

/-- Actions add the points that all their effects bring. -/
theorem toNat_totalPoints_applyAll (s : State) (actions : List Action) :
    (s.applyAll actions).totalPoints.toNat =
      min maxUInt32 (s.totalPoints.toNat + (actions.map (·.effect.points)).sum) := by
  unfold applyAll
  -- The points before may be any, since they grow from action to action.
  induction actions generalizing s with
  | nil => exact (Nat.min_eq_right s.toNat_totalPoints_le).symm
  | cons action actions ih =>
    -- What is cut off after the first action is cut off in the end as well.
    rw [List.foldl_cons, ih, toNat_totalPoints_apply, List.map_cons, List.sum_cons]
    omega

end State

namespace Game

/-- A choice adds the points of its actions and its own. -/
theorem toNat_totalPoints_stateAfter (s : State) (edge : Edge) (now : Instant) :
    (stateAfter s edge.scene edge.choice now).totalPoints.toNat =
      min maxUInt32 (s.totalPoints.toNat + edge.gain) := by
  have hactions := State.toNat_totalPoints_applyAll (s.visit edge.scene.id) edge.choice.actions
  have hvisit : (s.visit edge.scene.id).totalPoints = s.totalPoints := rfl
  rw [hvisit] at hactions
  unfold stateAfter Edge.gain
  -- The actions come first and the points of the choice after them.
  cases edge.choice.points with
  | none =>
    dsimp only [Option.map_none, Option.getD_none]
    rw [hactions, Nat.zero_add]
  | some points =>
    dsimp only [Option.map_some, Option.getD_some]
    rw [State.toNat_totalPoints_addPoints, hactions]
    omega

/-- A choice adds its gain to the points, as far as they fit. -/
theorem toNat_totalPoints_after (game : Game) (edge : Edge) (now : Instant) :
    (game.after edge.scene edge.choice now).state.totalPoints.toNat =
      min maxUInt32 (game.state.totalPoints.toNat + edge.gain) := by
  rw [after_state, ← toNat_totalPoints_stateAfter game.state edge now]
  split <;> rfl

/-- The step that is logged is worth what its difficulty, its feedback and its scene say. -/
theorem toNat_educationalValue (edge : Edge) :
    (educationalValue edge.scene edge.choice).toNat = edge.worth := by
  have hlesson : edge.scene.lesson.isSome = !decide (edge.scene.lesson = none) := by
    cases edge.scene.lesson <;> rfl
  have hfeedback : edge.choice.feedback.any (· ≠ "") =
      !decide (edge.choice.feedback.getD "" = "") := by
    cases edge.choice.feedback <;> simp
  unfold educationalValue Edge.worth
  rw [hlesson, hfeedback]
  -- What is left is one of sixteen sums of small numbers.
  by_cases h : edge.scene.lesson = none
  all_goals by_cases h' : edge.choice.feedback.getD "" = ""
  all_goals
    simp only [h, h', decide_true, decide_false, Bool.not_true, Bool.not_false, if_true, if_false,
      Bool.false_eq_true]
    cases edge.choice.difficulty with
    | none => rfl
    | some difficulty => cases difficulty <;> rfl

/-! ## The accounts -/

/-- Whether some edges account for a game: they are what its log names, and they lead from the start
of the story to where the player is. -/
structure Accounts (activity : Activity) (edges : List Edge) (game : Game) : Prop where
  edges_eq : game.log.map activity.edge? = edges.map some
  choices_eq : game.state.totalChoices = UInt32.ofNat game.log.length
  points_eq : game.state.totalPoints.toNat = min maxUInt32 (edges.map Edge.gain).sum
  values_eq : game.log.map (·.educationalValue.toNat) = edges.map Edge.worth
  path_eq : game.log.map (·.sceneId) ++ [game.state.currentSceneId] =
    activity.startingSceneId :: edges.map (·.choice.nextSceneId)

variable {activity : Activity} {rules : Rules} {game : Game} {edges : List Edge}

/-- In a fresh game nothing is booked yet. -/
theorem accounts_start (activity : Activity) (rules : Rules) (now : Instant) :
    Accounts activity [] (start activity rules {} now) :=
  ⟨rfl, rfl, rfl, rfl, rfl⟩

/-- What leaves the log, the place and the counters alone keeps the accounts. -/
theorem Accounts.mono {other : Game} (h : Accounts activity edges game)
    (hlog : other.log = game.log) (hscene : other.state.currentSceneId = game.state.currentSceneId)
    (hchoices : other.state.totalChoices = game.state.totalChoices)
    (hpoints : other.state.totalPoints = game.state.totalPoints) :
    Accounts activity edges other := by
  refine ⟨?_, ?_, ?_, ?_, ?_⟩
  · rw [hlog]; exact h.edges_eq
  · rw [hlog, hchoices]; exact h.choices_eq
  · rw [hpoints]; exact h.points_eq
  · rw [hlog]; exact h.values_eq
  · rw [hlog, hscene]; exact h.path_eq

/-- A choice that is taken is found in the story again by the step that it logs. -/
theorem edge?_stepOf (hgame : OnStory activity rules game) {choiceId : String} {edge : Edge}
    (hpeek : game.peek = some edge.scene) (hchoice : edge.scene.choice? choiceId = some edge.choice)
    (now : Instant) :
    activity.edge? (game.stepOf edge.scene edge.choice now) = some edge := by
  -- The player is in the first scene with its id, and the choice is the first one with its own.
  have hscene : activity.scene? edge.scene.id = some edge.scene := by
    rw [hgame.id_of_peek hpeek, ← hgame.scene?_eq]
    exact hpeek
  have hid : edge.choice.id = choiceId := by simpa using List.find?_some hchoice
  unfold Activity.edge? stepOf
  dsimp only
  rw [hscene, Option.bind_some, hid, hchoice, Option.map_some]

/-- A choice that is taken is entered into the accounts. -/
theorem Accounts.take (h : Accounts activity edges game) (hgame : OnStory activity rules game)
    {choiceId : String} {edge : Edge} (hpeek : game.peek = some edge.scene)
    (hchoice : edge.scene.choice? choiceId = some edge.choice) (now : Instant) :
    Accounts activity (edges ++ [edge]) (game.after edge.scene edge.choice now) := by
  refine ⟨?_, ?_, ?_, ?_, ?_⟩
  -- The choice is booked last, as its step is logged last.
  · rw [after_log, List.map_append, List.map_append, h.edges_eq]
    exact congrArg (edges.map some ++ [·]) (edge?_stepOf hgame hpeek hchoice now)
  · rw [totalChoices_after, h.choices_eq, after_log, List.length_append, List.length_singleton]
    exact (UInt32.ofNat_add game.log.length 1).symm
  · rw [toNat_totalPoints_after, h.points_eq, List.map_append, List.sum_append]
    simp only [List.map_cons, List.map_nil, List.sum_cons, List.sum_nil]
    omega
  · rw [after_log, List.map_append, List.map_append, h.values_eq]
    exact congrArg (edges.map Edge.worth ++ [·]) (toNat_educationalValue edge)
  · -- The step is logged where the path has led so far, and the choice leads one scene on.
    have hplace : (game.stepOf edge.scene edge.choice now).sceneId = game.state.currentSceneId :=
      hgame.id_of_peek hpeek
    rw [after_log, currentSceneId_after, List.map_append, List.map_append, List.map_singleton,
      hplace, h.path_eq]
    rfl

/-- Each move keeps the accounts, possibly with an edge more. -/
theorem accounts_step (clock : Readings) (move : Move) (hmove : move.isLoad = false)
    (hgame : OnStory activity rules game) (h : ∃ edges, Accounts activity edges game) :
    ∃ edges, Accounts activity edges (game.step clock move).2 := by
  obtain ⟨edges, h⟩ := h
  have hchange := change_step game clock move
  generalize (game.step clock move).2 = next at hchange ⊢
  cases hchange with
  -- Only a choice that is taken books anything.
  | stay => exact ⟨edges, h⟩
  | enter => exact ⟨edges, h.mono rfl rfl rfl rfl⟩
  | complete objective =>
    obtain ⟨objectives, hstate⟩ := State.exists_complete_eq game.state objective
    unfold Game.complete
    rw [hstate]
    exact ⟨edges, h.mono rfl rfl rfl rfl⟩
  | load snapshot => cases hmove
  | @take _ scene choice hpeek hchoice =>
    exact ⟨edges ++ [⟨scene, choice⟩], h.take hgame hpeek hchoice clock.first⟩

/-- In every play from the start some edges account for the game. -/
theorem accounts_played (activity : Activity) (rules : Rules) (now : Instant)
    (moves : List (Readings × Move)) (hmoves : ∀ m ∈ moves, m.2.isLoad = false) :
    ∃ edges, Accounts activity edges ((start activity rules {} now).played moves) :=
  unloaded_induction (fun game => ∃ edges, Accounts activity edges game)
    (fun _ clock move hmove hgame h => accounts_step clock move hmove hgame h) {} now moves hmoves
    ⟨[], accounts_start activity rules now⟩

/-- In every play from the start, of fewer choices than a word can count, each step of the log names
a choice of the story. The number of choices is the length of the log; the points are what the
choices bring, up to the greatest word; each step has the educational value of its choice; and the
scenes of the log follow the choices from the start of the story to where the player is. -/
theorem accounts_balance (activity : Activity) (rules : Rules) (now : Instant)
    (moves : List (Readings × Move)) (hmoves : ∀ m ∈ moves, m.2.isLoad = false)
    (hcount : ((start activity rules {} now).played moves).log.length < 2 ^ 32) :
    let game := (start activity rules {} now).played moves
    ∃ edges : List Edge,
      game.log.map activity.edge? = edges.map some ∧
      game.state.totalChoices.toNat = game.log.length ∧
      game.state.totalPoints.toNat = min (2 ^ 32 - 1) (edges.map Edge.gain).sum ∧
      game.log.map (·.educationalValue.toNat) = edges.map Edge.worth ∧
      game.log.map (·.sceneId) ++ [game.state.currentSceneId] =
        activity.startingSceneId :: edges.map (·.choice.nextSceneId) := by
  intro game
  obtain ⟨edges, h⟩ := accounts_played activity rules now moves hmoves
  have hchoices : game.state.totalChoices.toNat = game.log.length := by
    rw [h.choices_eq]
    exact UInt32.toNat_ofNat_of_lt' hcount
  exact ⟨edges, h.edges_eq, hchoices, h.points_eq, h.values_eq, h.path_eq⟩

/-! ### A story that pays too much -/

/-- A story of riches with a repeated scene, a repeated choice and a choice that leads nowhere. -/
def richStory : Activity where
  id := "rich"
  title := "Riches"
  startingSceneId := "mine"
  scenes :=
    [{ id := "mine", title := "Mine", description := ""
       choices :=
        [{ id := "dig", text := "Dig", nextSceneId := "vault", points := some 4294967290
           actions := [{ effect := .addPoints 3 }, { effect := .addItem "gold" }]
           difficulty := some .hard, feedback := some "Well dug." }] },
     { id := "vault", title := "Vault", description := "", lesson := some ⟨"Wealth", "", [], none⟩
       choices :=
        [{ id := "count", text := "Count", nextSceneId := "vault", feedback := some ""
           actions := [{ effect := .addPoints 1 }, { effect := .addPoints 7 }] },
         { id := "count", text := "Count again", nextSceneId := "mine", points := some 100 },
         { id := "fall", text := "Fall", nextSceneId := "pit", difficulty := some .medium }] },
     { id := "vault", title := "Another vault", description := "" }]

/-- A play of the story of riches, with a look, an objective and refused choices. -/
def richMoves : List (Readings × Move) :=
  [(.epoch, .choose "count"), (.epoch, .choose "dig"), (.epoch, .look), (.epoch, .choose "count"),
    (.epoch, .complete "greed"), (.epoch, .choose "fall"), (.epoch, .choose "fall")]

/-- The story of riches pays more than a word can hold. -/
theorem accounts_richStory :
    let game := (start richStory {} {} .epoch).played richMoves
    (∀ m ∈ richMoves, m.2.isLoad = false) ∧ game.log.length < 2 ^ 32 ∧
    ∃ edges : List Edge, edges.map (·.choice.text) = ["Dig", "Count", "Fall"] ∧
      (edges.map Edge.gain).sum = 4294967301 ∧
      game.state.totalPoints.toNat = min (2 ^ 32 - 1) (edges.map Edge.gain).sum ∧
      game.log.map (·.educationalValue.toNat) = edges.map Edge.worth ∧
      game.log.map (·.sceneId) ++ ["pit"] = "mine" :: edges.map (·.choice.nextSceneId) := by
  intro game
  have hmoves : ∀ m ∈ richMoves, m.2.isLoad = false := by decide
  have hlength : game.log.length < 2 ^ 32 := by decide
  have hpit : game.state.currentSceneId = "pit" := by decide
  obtain ⟨edges, hedges, -, hpoints, hvalues, hpath⟩ :=
    accounts_balance richStory {} .epoch richMoves hmoves hlength
  -- The edges are those that the log names, and so can be worked out.
  have hlog : edges = game.log.filterMap richStory.edge? := by
    have h := congrArg (List.filterMap id) hedges
    rw [List.filterMap_map, List.filterMap_map] at h
    exact List.filterMap_some.symm.trans h.symm
  refine ⟨hmoves, hlength, edges, ?_, ?_, hpoints, hvalues, hpit ▸ hpath⟩
  · rw [hlog]
    decide
  · rw [hlog]
    decide

end Game

end Gamebook
