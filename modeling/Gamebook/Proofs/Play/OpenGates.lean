import Gamebook.Proofs.Play.Growth
import Gamebook.Proofs.Play.Offered
import Gamebook.Proofs.Story.Conditions

/-!
# Gates that stay open

Points and entered scenes are never lost, so a condition that asks for nothing else holds for good
once it holds. A choice behind such conditions, once it was on offer, is on offer whenever the
player is in its scene again.

## Key results

- `Lasting`: the conditions that ask for points and entered scenes only
- `Grows.allHold`: such conditions go on holding as a game grows
- `opened_stays_open`: what every play without loading keeps, and the gates that it keeps open
-/

namespace Gamebook

/-- The conditions that ask for points or for an entered scene. -/
inductive Condition.Lasting : Condition → Prop
  | scoreAtLeast (points : UInt32) : Lasting (.scoreAtLeast points)
  | visited (scene : String) : Lasting (.visited scene)

namespace Game

variable {game later : Game}

/-- A condition on points or on an entered scene goes on holding as a game grows. -/
theorem Grows.holds (h : game.Grows later) {condition : Condition} (hlasting : condition.Lasting)
    (hholds : condition.holds game.state.facts = true) :
    condition.holds later.state.facts = true := by
  cases hlasting with
  | scoreAtLeast points =>
    -- Doubles hold every number of points, so these are compared as numbers.
    rw [Condition.holds_scoreAtLeast] at hholds ⊢
    exact Nat.le_trans hholds h.points_le
  | visited scene =>
    rw [Condition.holds_visited] at hholds ⊢
    exact h.visited scene hholds

/-- Conditions on points and entered scenes go on holding as a game grows. -/
theorem Grows.allHold (h : game.Grows later) {conditions : List Condition}
    (hlasting : ∀ c ∈ conditions, c.Lasting)
    (hholds : Condition.allHold conditions game.state.facts = true) :
    Condition.allHold conditions later.state.facts = true := by
  unfold Condition.allHold at hholds ⊢
  rw [List.all_eq_true] at hholds ⊢
  exact fun c hc => h.holds (hlasting c hc) (hholds c hc)

/-! ## Looking at the offer -/

/-- Entering a scene is a look at it. -/
theorem grows_entered (game : Game) : game.Grows game.entered := by
  have hlook : Move.look.isLoad = false := rfl
  have hgrows := grows_step game .epoch hlook
  rwa [step_look] at hgrows

/-- What a player who is in a scene has entered counts for a player who is in it later as well. -/
theorem Grows.entered (h : game.Grows later) (hpeek : later.peek = game.peek) :
    game.entered.Grows later.entered := by
  rw [entered_eq, entered_eq, hpeek]
  cases game.peek with
  | none => exact h
  | some scene =>
    refine ⟨h.activity_eq, fun id hid => ?_, h.completed, h.points_le, h.log⟩
    rw [State.hasVisited_visit, Bool.or_eq_true] at hid ⊢
    exact hid.imp_right (h.visited id)

/-- What can be seen is a choice of the scene whose conditions hold. -/
theorem mem_peekChoices {choice : Choice} :
    choice ∈ game.peekChoices ↔ ∃ scene, game.peek = some scene ∧ choice ∈ scene.choices ∧
      Condition.allHold choice.conditions game.state.facts = true := by
  unfold peekChoices
  cases game.peek with
  | none => simp
  | some scene => simp [mem_offeredIn]

/-- A choice behind conditions on points and entered scenes stays on offer in its scene. -/
theorem Grows.mem_peekChoices (h : game.Grows later) (hpeek : later.peek = game.peek)
    {choice : Choice} (hlasting : ∀ c ∈ choice.conditions, c.Lasting)
    (hoffer : choice ∈ game.peekChoices) : choice ∈ later.peekChoices := by
  rw [Game.mem_peekChoices] at hoffer ⊢
  obtain ⟨scene, hscene, hmem, hholds⟩ := hoffer
  exact ⟨scene, hpeek.trans hscene, hmem, h.allHold hlasting hholds⟩

/-! ## Whole plays -/

/-- However a game came about, every play of it that loads nothing keeps the scenes that were
entered, the objectives that were marked, the points and the log, and the count of choices as long
as that does not overflow. So a list of conditions on points and entered scenes that holds goes on
holding, and a choice behind such conditions that is on offer, looked at with or without entering
the scene, is on offer again whenever the player is in that scene again. -/
theorem opened_stays_open (activity : Activity) (rules : Rules) (past : Past)
    (moves : List (Readings × Move)) (hmoves : ∀ m ∈ moves, m.2.isLoad = false) :
    let earlier := past.game activity rules
    let later := earlier.played moves
    (∀ id, earlier.state.hasVisited id = true → later.state.hasVisited id = true) ∧
    (∀ objective ∈ earlier.state.completedObjectives,
      objective ∈ later.state.completedObjectives) ∧
    earlier.state.totalPoints ≤ later.state.totalPoints ∧
    (earlier.HasRoom moves → earlier.state.totalChoices ≤ later.state.totalChoices) ∧
    earlier.log <+: later.log ∧
    (∀ conditions : List Condition, (∀ c ∈ conditions, c.Lasting) →
      earlier.holds conditions = true → later.holds conditions = true) ∧
    ∀ choice : Choice, (∀ c ∈ choice.conditions, c.Lasting) →
      later.state.currentSceneId = earlier.state.currentSceneId →
      (choice ∈ earlier.choices.1 → choice ∈ later.choices.1) ∧
      (choice ∈ earlier.peekChoices → choice ∈ later.peekChoices ∧ choice ∈ later.choices.1) := by
  intro earlier later
  have hearlier : earlier.OnStory activity rules := past.onStory_game activity rules
  have hlater : later.OnStory activity rules := onStory_played moves hearlier
  have hgrows : earlier.Grows later := grows_played earlier moves hmoves
  refine ⟨hgrows.visited, fun objective hmem => hgrows.completed.subset hmem,
    UInt32.le_iff_toNat_le.2 hgrows.points_le, fun hroom => ?_, hgrows.log,
    fun conditions hlasting => hgrows.allHold hlasting, fun choice hlasting hcurrent => ?_⟩
  · rw [UInt32.le_iff_toNat_le, hroom.toNat_totalChoices hmoves]
    exact Nat.le_add_right _ _
  -- The same id names the same scene, entered or not.
  have hpeek : later.peek = earlier.peek := by
    unfold peek
    rw [hlater.scene?_eq, hearlier.scene?_eq, hcurrent]
  have hpeek' : later.entered.peek = earlier.entered.peek := by
    rw [peek_entered, peek_entered, hpeek]
  rw [choices_eq, choices_eq]
  refine ⟨(hgrows.entered hpeek).mem_peekChoices hpeek' hlasting, fun hoffer => ?_⟩
  -- A choice that was seen before its scene was entered is still there once it is.
  have hthere := hgrows.mem_peekChoices hpeek hlasting hoffer
  exact ⟨hthere, (grows_entered later).mem_peekChoices (peek_entered later) hlasting hthere⟩

/-! ### A training ground -/

/-- A story with a gate that asks for points and for a scene, and with ways to lose things. -/
def groundStory : Activity where
  id := "ground"
  title := "Ground"
  startingSceneId := "field"
  scenes :=
    [{ id := "field", title := "Field", description := ""
       choices :=
        [{ id := "train", text := "Train", nextSceneId := "field", points := some 5
           actions := [{ effect := .addItem "medal" }] },
         { id := "compete", text := "Compete", nextSceneId := "arena"
           conditions := [.scoreAtLeast 10, .visited "field"] }] },
     { id := "arena", title := "Arena", description := ""
       choices :=
        [{ id := "back", text := "Go back", nextSceneId := "field"
           actions :=
            [{ effect := .removeItem "medal" }, { effect := .setFlag "tired" (.bool true) }] }] }]

/-- A player who has trained twice and stands on the field, which is not entered again yet. -/
def groundPast : Past where
  builtAt := .epoch
  moves := [(.epoch, .choose "train"), (.epoch, .choose "train")]

/-- The player takes the gate, is refused a choice and comes back without the medal. -/
def groundMoves : List (Readings × Move) :=
  [(.epoch, .choose "compete"), (.epoch, .choose "train"), (.epoch, .complete "win"),
    (.epoch, .choose "back")]

/-- Back on the field the gate is still open. -/
theorem opened_stays_open_groundStory :
    (∀ m ∈ groundMoves, m.2.isLoad = false) ∧
    let earlier := groundPast.game groundStory {}
    let later := earlier.played groundMoves
    earlier.HasRoom groundMoves ∧ earlier.state.totalChoices ≤ later.state.totalChoices ∧
    earlier.state.hasItem "medal" = true ∧ later.state.hasItem "medal" = false ∧
    10 ≤ later.state.totalPoints ∧ later.holds [.scoreAtLeast 10, .visited "field"] = true ∧
    ∃ choice ∈ later.choices.1, choice.id = "compete" := by
  have hmoves : ∀ m ∈ groundMoves, m.2.isLoad = false := by decide
  refine ⟨hmoves, ?_⟩
  intro earlier later
  obtain ⟨-, -, hpoints, hchoices, -, hholds, hoffer⟩ :=
    opened_stays_open groundStory {} groundPast groundMoves hmoves
  -- Points and visits are never lost, unlike the medal.
  have hlasting : ∀ c ∈ [Condition.scoreAtLeast 10, .visited "field"], c.Lasting := by
    simp [Condition.Lasting.scoreAtLeast, Condition.Lasting.visited]
  have hopen : earlier.holds [.scoreAtLeast 10, .visited "field"] = true := by decide +kernel
  have hroom : earlier.HasRoom groundMoves := by decide +kernel
  have hearned : (10 : UInt32) ≤ earlier.state.totalPoints := by decide
  have hchoice : groundStory.scenes[0].choices[1] ∈ earlier.choices.1 := by decide +kernel
  exact ⟨hroom, hchoices hroom, by decide, by decide, UInt32.le_trans hearned hpoints,
    hholds _ hlasting hopen,
    groundStory.scenes[0].choices[1], (hoffer _ hlasting (by decide)).1 hchoice, rfl⟩

end Game

end Gamebook
