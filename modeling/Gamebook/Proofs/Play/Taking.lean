import Gamebook.Proofs.Play.Accounts
import Gamebook.Proofs.Play.Looking

/-!
# Taking what is offered

The choices on offer are those of the scene whose conditions hold, but a choice is taken by its id,
which is looked up among all choices of the scene, the hidden ones included. Where no two choices of
a scene share an id, the choice that was offered is the one that is taken.

## Key results

- `choices_eq_filter`: which choices are on offer
- `choose_of_mem_choices`: a choice on offer is the one that is taken
- `core_applyAll_visit`, `gains_after`: what a choice does to the things the player has
- `offer_is_taken`: so whatever is offered is executed, and nothing else
-/

namespace Gamebook

/-- Whether two states agree on all that actions write to. -/
structure State.SameGains (s t : State) : Prop where
  inventory_eq : s.inventory = t.inventory
  flags_eq : s.flags = t.flags
  relationships_eq : s.relationships = t.relationships
  totalPoints_eq : s.totalPoints = t.totalPoints

namespace Game

variable {game : Game} {scene : Scene}

/-! ## What is on offer -/

/-- On offer are the choices of the scene whose conditions hold once it is entered, in order. -/
theorem choices_eq_filter (hpeek : game.peek = some scene) :
    game.choices.1 = scene.choices.filter (fun c => game.choices.2.holds c.conditions) := by
  rw [choices_of_peek hpeek, choices_eq]
  show _ = scene.choices.filter (fun c => game.entered.holds c.conditions)
  rw [entered_of_peek hpeek]
  rfl

/-- A choice on offer is the one that is taken, if its id is no other choice's. -/
theorem choose_of_mem_choices (hpeek : game.peek = some scene)
    (hnodup : (scene.choices.map (·.id)).Nodup) {choice : Choice} (hchoice : choice ∈ scene.choices)
    (clock : Readings) :
    game.choose clock choice.id =
      (.ok (outcome choice (game.after scene choice clock.first) clock.second),
        game.after scene choice clock.first) :=
  choose_eq_ok_iff.2
    ⟨scene, choice, hpeek, Scene.choice?_of_mem hnodup hchoice, rfl, rfl⟩

/-! ## What a choice does -/

/-- Actions do the same whether or not the scene is entered first. -/
theorem core_applyAll_visit (s : State) (id : String) (actions : List Action) :
    ((s.visit id).applyAll actions).core = (s.applyAll actions).core := by
  rw [State.core_applyAll, State.core_applyAll, State.core_visit]

/-- The things, flags and relationships after a choice are those that its actions leave, and the
points are those that the actions leave and those of the choice. -/
theorem gains_after (game : Game) (scene : Scene) (choice : Choice) (now : Instant) :
    (game.after scene choice now).state.SameGains
      (match choice.points with
        | some points => (game.state.applyAll choice.actions).addPoints points
        | none => game.state.applyAll choice.actions) := by
  have hcore := core_applyAll_visit game.state scene.id choice.actions
  obtain ⟨-, hinventory, hflags, hrelationships, -, -, hpoints, -⟩ := State.mk.injEq .. ▸ hcore
  have hstate : (stateAfter game.state scene choice now).SameGains
      (match choice.points with
        | some points => (game.state.applyAll choice.actions).addPoints points
        | none => game.state.applyAll choice.actions) := by
    unfold stateAfter
    cases choice.points with
    | none => exact ⟨hinventory, hflags, hrelationships, hpoints⟩
    | some points =>
      exact ⟨hinventory, hflags, hrelationships, congrArg (addCapped · points) hpoints⟩
  -- Entering an ending is no gain.
  rw [after_state]
  split
  · exact ⟨hstate.inventory_eq, hstate.flags_eq, hstate.relationships_eq, hstate.totalPoints_eq⟩
  · exact hstate

/-- However a game came about, the choices on offer are those of the current scene whose conditions
all hold once it is entered, in order. If no two choices of the scene share an id, each choice on
offer is the one that is found under its id, with all its conditions met. Taking it succeeds, gives
what the choice says, logs it in the scene, leads to its next scene, and changes things, flags,
relationships and points by its actions in order and then by its points. -/
theorem offer_is_taken (activity : Activity) (rules : Rules) (past : Past) (scene : Scene)
    (hscene : activity.scene? (past.game activity rules).state.currentSceneId = some scene) :
    let game := past.game activity rules
    let offer := game.choices.1
    let entered := game.choices.2
    offer = scene.choices.filter (fun c => entered.holds c.conditions) ∧
    ((scene.choices.map (·.id)).Nodup → ∀ choice ∈ offer,
      entered.find choice.id = .ok (scene, choice) ∧ entered.holds choice.conditions = true ∧
      ∀ clock, ∃ outcome next, entered.choose clock choice.id = (.ok outcome, next) ∧
        outcome.actions = choice.actions ∧ outcome.consequence = choice.consequence ∧
        outcome.feedback = choice.feedback ∧
        outcome.messages = choice.actions.filterMap (·.message) ∧
        (∃ step, next.log = game.log ++ [step] ∧ step.sceneId = scene.id ∧
          step.choiceId = choice.id) ∧
        next.state.currentSceneId = choice.nextSceneId ∧
        let acted := game.state.applyAll choice.actions
        next.state.inventory = acted.inventory ∧ next.state.flags = acted.flags ∧
        next.state.relationships = acted.relationships ∧
        next.state.totalPoints.toNat =
          min maxUInt32 (acted.totalPoints.toNat + (choice.points.map UInt32.toNat).getD 0)) := by
  intro game offer entered
  have hgame : game.OnStory activity rules := past.onStory_game activity rules
  have hpeek : game.peek = some scene := (hgame.scene?_eq _).trans hscene
  have hlook : entered = game.entered := by
    show game.choices.2 = _
    rw [choices_eq]
  have hentered : entered.peek = some scene := by
    rw [hlook]
    exact (peek_entered game).trans hpeek
  have hoffer : offer = scene.choices.filter (fun c => entered.holds c.conditions) :=
    choices_eq_filter hpeek
  refine ⟨hoffer, fun hnodup choice hchoice => ?_⟩
  obtain ⟨hmem, hholds⟩ := List.mem_filter.1 (hoffer ▸ hchoice)
  refine ⟨find_eq_ok_iff.2 ⟨hentered, Scene.choice?_of_mem hnodup hmem⟩, hholds, fun clock => ?_⟩
  -- What is done in the scene that is entered would have been done before.
  have hchoose := choose_entered (choose_of_mem_choices hpeek hnodup hmem clock)
  rw [← hlook] at hchoose
  refine ⟨_, _, hchoose, rfl, rfl, rfl, rfl, ⟨_, after_log game scene choice _, rfl, rfl⟩,
    currentSceneId_after game scene choice _, ?_⟩
  have hgains := gains_after game scene choice clock.first
  cases hpoints : choice.points with
  | none =>
    rw [hpoints] at hgains
    refine ⟨hgains.inventory_eq, hgains.flags_eq, hgains.relationships_eq, ?_⟩
    rw [hgains.totalPoints_eq]
    -- Without points of the choice there is nothing to be capped.
    exact (Nat.min_eq_right (State.toNat_totalPoints_le _)).symm
  | some points =>
    rw [hpoints] at hgains
    refine ⟨hgains.inventory_eq, hgains.flags_eq, hgains.relationships_eq, ?_⟩
    rw [hgains.totalPoints_eq]
    exact State.toNat_totalPoints_addPoints _ points

/-! ### In the pantry -/

/-- A story with a choice that is hidden until the player has a key, and one that is hidden for
good. -/
def pantryStory : Activity where
  id := "pantry"
  title := "Pantry"
  startingSceneId := "pantry"
  scenes :=
    [{ id := "pantry", title := "Pantry", description := ""
       choices :=
        [{ id := "open", text := "Open the chest", nextSceneId := "chest"
           conditions := [.hasItem "key", .scoreAtLeast 5], points := some 4294967295
           consequence := some "It creaks.", feedback := some "Well done."
           actions :=
            [{ effect := .removeItem "key", message := some "The key breaks." },
              { effect := .addPoints 7 },
              { effect := .unlockScene "chest", message := some "The chest is open." }] },
         { id := "force", text := "Force the chest", nextSceneId := "chest"
           conditions := [.hasItem "crowbar"] },
         { id := "search", text := "Search", nextSceneId := "pantry", points := some 5
           actions := [{ effect := .addItem "key" }] }] },
     { id := "chest", title := "Chest", description := "", isEnding := true }]

/-- A player who has found the key. -/
def pantryPast : Past where
  builtAt := .epoch
  moves := [(.epoch, .choose "search")]

/-- With the key two of the three choices are on offer, and the one that opens the chest does what
it says. -/
theorem offer_is_taken_pantryStory :
    let game := pantryPast.game pantryStory {}
    let pantry := pantryStory.scenes[0]
    pantryStory.scene? game.state.currentSceneId = some pantry ∧
    (pantry.choices.map (·.id)).Nodup ∧ pantry.choices[0] ∈ game.choices.1 ∧
    game.choices.1.map (·.id) = ["open", "search"] ∧
    ∃ outcome next, game.choices.2.choose .epoch "open" = (.ok outcome, next) ∧
      outcome.messages = ["The key breaks.", "The chest is open."] ∧
      next.state.currentSceneId = "chest" ∧ next.state.hasItem "key" = false ∧
      next.state.totalPoints.toNat = 4294967295 := by
  intro game pantry
  have hscene : pantryStory.scene? game.state.currentSceneId = some pantry := by decide
  have hnodup : (pantry.choices.map (·.id)).Nodup := by decide
  obtain ⟨hoffer, htaken⟩ := offer_is_taken pantryStory {} pantryPast pantry hscene
  have hmem : pantry.choices[0] ∈ game.choices.1 := by
    rw [hoffer]
    decide
  obtain ⟨-, -, hchoose⟩ := htaken hnodup _ hmem
  obtain ⟨outcome, next, hok, -, -, -, hmessages, -, hnext, hinventory, -, -, hpoints⟩ :=
    hchoose .epoch
  have hkey : next.state.hasItem "key" = false := by
    unfold State.hasItem
    rw [hinventory]
    decide
  have hfull : next.state.totalPoints.toNat = 4294967295 := by
    rw [hpoints]
    decide
  exact ⟨hscene, hnodup, hmem, by decide, outcome, next, hok, hmessages, hnext, hkey, hfull⟩

end Game

end Gamebook
