import Gamebook.Proofs.Play.Played

/-!
# What effects leave alone

Effects change what the player carries, the flags, the relationships and the points. All else of a
state stays as it is while actions run, so a choice enters its scene, runs its actions and moves on
in parts that do not get in each other's way.

## Key results

- `framed_applyAll`: what a list of actions leaves as it is
- `hasVisited_after`: which scenes are entered once a choice is taken
- `totalPoints_le_stateAfter`: a choice never takes points away
- `totalChoices_after`: a choice is counted
- `core_stateAfter`: entered scenes and objectives have no part in what a choice does to the rest
-/

namespace Gamebook

namespace State

/-- Whether two states differ at most in what effects can change. -/
structure Framed (s t : State) : Prop where
  currentSceneId_eq : t.currentSceneId = s.currentSceneId
  visited_eq : t.visited = s.visited
  totalChoices_eq : t.totalChoices = s.totalChoices
  startTime_eq : t.startTime = s.startTime
  lastSaveTime_eq : t.lastSaveTime = s.lastSaveTime
  completedObjectives_eq : t.completedObjectives = s.completedObjectives

/-- A state frames itself. -/
theorem Framed.refl (s : State) : Framed s s := ⟨rfl, rfl, rfl, rfl, rfl, rfl⟩

/-- What is framed by two changes is framed by both together. -/
theorem Framed.trans {s t u : State} (h : Framed s t) (h' : Framed t u) : Framed s u :=
  ⟨h'.currentSceneId_eq.trans h.currentSceneId_eq, h'.visited_eq.trans h.visited_eq,
    h'.totalChoices_eq.trans h.totalChoices_eq, h'.startTime_eq.trans h.startTime_eq,
    h'.lastSaveTime_eq.trans h.lastSaveTime_eq,
    h'.completedObjectives_eq.trans h.completedObjectives_eq⟩

/-- What an effect leaves as it is. -/
theorem framed_apply (s : State) (effect : Effect) : Framed s (s.apply effect) := by
  cases effect <;> exact ⟨rfl, rfl, rfl, rfl, rfl, rfl⟩

/-- What a list of actions leaves as it is. -/
theorem framed_applyAll (s : State) (actions : List Action) : Framed s (s.applyAll actions) := by
  unfold applyAll
  induction actions generalizing s with
  | nil => exact .refl s
  | cons action actions ih => exact (framed_apply s action.effect).trans (ih _)

/-! ## Points only grow -/

/-- Adding points takes none away. -/
theorem totalPoints_le_addPoints (s : State) (points : UInt32) :
    s.totalPoints.toNat ≤ (s.addPoints points).totalPoints.toNat := by
  -- A sum that is cut off is the greatest word, which no points exceed.
  have hword := s.totalPoints.toNat_lt
  show s.totalPoints.toNat ≤ (addCapped s.totalPoints points).toNat
  rw [toNat_addCapped]
  unfold maxUInt32
  omega

/-- No effect takes points away. -/
theorem totalPoints_le_apply (s : State) (effect : Effect) :
    s.totalPoints.toNat ≤ (s.apply effect).totalPoints.toNat := by
  cases effect with
  | addPoints points => exact totalPoints_le_addPoints s points
  | _ => exact Nat.le_refl _

/-- Neither do actions. -/
theorem totalPoints_le_applyAll (s : State) (actions : List Action) :
    s.totalPoints.toNat ≤ (s.applyAll actions).totalPoints.toNat := by
  unfold applyAll
  induction actions generalizing s with
  | nil => exact Nat.le_refl _
  | cons action actions ih => exact Nat.le_trans (totalPoints_le_apply s action.effect) (ih _)

/-! ## The scenes that were entered -/

/-- After a scene was entered it counts as entered, and the others as before. -/
theorem hasVisited_visit (s : State) (scene id : String) :
    (s.visit scene).hasVisited id = (decide (id = scene) || s.hasVisited id) :=
  NameSet.contains_add s.visited scene id

/-! ## What choices alone decide -/

/-- A state without the scenes that were entered and the objectives that were marked. -/
def core (s : State) : State := { s with visited := .empty, completedObjectives := [] }

/-- Entering a scene leaves the core as it is. -/
@[simp] theorem core_visit (s : State) (scene : String) : (s.visit scene).core = s.core := rfl

/-- Marking an objective changes nothing but the list of objectives. -/
theorem exists_complete_eq (s : State) (objective : String) :
    ∃ objectives, s.complete objective = { s with completedObjectives := objectives } := by
  unfold complete
  split
  · exact ⟨s.completedObjectives, rfl⟩
  · exact ⟨_, rfl⟩

/-- An effect looks at the core of a state only. -/
theorem core_apply (s : State) (effect : Effect) : (s.apply effect).core = s.core.apply effect := by
  cases effect <;> rfl

/-- Actions look at the core of a state only. -/
theorem core_applyAll (s : State) (actions : List Action) :
    (s.applyAll actions).core = s.core.applyAll actions := by
  unfold applyAll
  -- For any state, since each action acts on what those before it left.
  induction actions generalizing s with
  | nil => rfl
  | cons action actions ih =>
    simp only [List.foldl_cons]
    rw [ih, core_apply]

end State

namespace Game

/-- The state before the counters move on: the scene is entered, the actions run, and the points are
added. -/
private def earned (s : State) (scene : Scene) (choice : Choice) : State :=
  match choice.points with
  | some points => ((s.visit scene.id).applyAll choice.actions).addPoints points
  | none => (s.visit scene.id).applyAll choice.actions

/-- A choice earns what it brings, is counted, and moves on. -/
private theorem stateAfter_eq (s : State) (scene : Scene) (choice : Choice) (now : Instant) :
    stateAfter s scene choice now =
      { earned s scene choice with
        totalChoices := (earned s scene choice).totalChoices + 1
        currentSceneId := choice.nextSceneId
        lastSaveTime := now } := rfl

/-- What a choice earns leaves the frame as it is. -/
private theorem framed_earned (s : State) (scene : Scene) (choice : Choice) :
    (s.visit scene.id).Framed (earned s scene choice) := by
  have h := State.framed_applyAll (s.visit scene.id) choice.actions
  unfold earned
  split
  · exact h.trans ⟨rfl, rfl, rfl, rfl, rfl, rfl⟩
  · exact h

/-- A choice never takes points away. -/
theorem totalPoints_le_stateAfter (s : State) (scene : Scene) (choice : Choice) (now : Instant) :
    s.totalPoints.toNat ≤ (stateAfter s scene choice now).totalPoints.toNat := by
  have hactions := State.totalPoints_le_applyAll (s.visit scene.id) choice.actions
  -- The counters, the scene and the time have no part in the points.
  rw [stateAfter_eq]
  show s.totalPoints.toNat ≤ (earned s scene choice).totalPoints.toNat
  unfold earned
  split
  · exact Nat.le_trans hactions (State.totalPoints_le_addPoints _ _)
  · exact hactions

/-- A choice enters the scene it is made in, and no other. -/
theorem visited_stateAfter (s : State) (scene : Scene) (choice : Choice) (now : Instant) :
    (stateAfter s scene choice now).visited = s.visited.add scene.id := by
  rw [stateAfter_eq]
  exact (framed_earned s scene choice).visited_eq

/-- A choice leads to its next scene. -/
theorem currentSceneId_after (game : Game) (scene : Scene) (choice : Choice) (now : Instant) :
    (game.after scene choice now).state.currentSceneId = choice.nextSceneId := by
  rw [after_state]
  split <;> rfl

/-- A choice leads to the scene that its story has under the id, if there is one. -/
theorem peek_after (game : Game) (scene : Scene) (choice : Choice) (now : Instant) :
    (game.after scene choice now).peek = game.scene? choice.nextSceneId := by
  unfold peek
  rw [currentSceneId_after, after_eq]
  rfl

/-- A choice is counted. -/
theorem totalChoices_after (game : Game) (scene : Scene) (choice : Choice) (now : Instant) :
    (game.after scene choice now).state.totalChoices = game.state.totalChoices + 1 := by
  have hframed : (stateAfter game.state scene choice now).totalChoices =
      game.state.totalChoices + 1 := by
    rw [stateAfter_eq]
    exact congrArg (· + 1) (framed_earned game.state scene choice).totalChoices_eq
  rw [after_state, ← hframed]
  split <;> rfl

/-- The count of choices goes up by one where there is room for it. -/
theorem toNat_totalChoices_after {game : Game}
    (hroom : game.state.totalChoices.toNat + 1 < UInt32.size) (scene : Scene) (choice : Choice)
    (now : Instant) :
    (game.after scene choice now).state.totalChoices.toNat =
      game.state.totalChoices.toNat + 1 := by
  rw [totalChoices_after, UInt32.toNat_add]
  exact Nat.mod_eq_of_lt hroom

/-- A choice marks no objectives. -/
theorem completedObjectives_after (game : Game) (scene : Scene) (choice : Choice) (now : Instant) :
    (game.after scene choice now).state.completedObjectives = game.state.completedObjectives := by
  have hframed : (stateAfter game.state scene choice now).completedObjectives =
      game.state.completedObjectives := by
    rw [stateAfter_eq]
    exact (framed_earned game.state scene choice).completedObjectives_eq
  rw [after_state, ← hframed]
  split <;> rfl

/-- A choice leaves the start of the game as it is. -/
theorem startTime_after (game : Game) (scene : Scene) (choice : Choice) (now : Instant) :
    (game.after scene choice now).state.startTime = game.state.startTime := by
  have hframed : (stateAfter game.state scene choice now).startTime = game.state.startTime := by
    rw [stateAfter_eq]
    exact (framed_earned game.state scene choice).startTime_eq
  rw [after_state, ← hframed]
  split <;> rfl

/-- A choice is the last thing that happened. -/
theorem lastSaveTime_after (game : Game) (scene : Scene) (choice : Choice) (now : Instant) :
    (game.after scene choice now).state.lastSaveTime = now := by
  rw [after_state]
  split <;> rfl

/-- Flags are set by actions only. -/
private theorem flags_stateAfter (s : State) (scene : Scene) (choice : Choice) (now : Instant) :
    (stateAfter s scene choice now).flags = ((s.visit scene.id).applyAll choice.actions).flags := by
  rw [stateAfter_eq]
  show (earned s scene choice).flags = _
  unfold earned
  split <;> rfl

/-- The flags after a choice are those that its actions leave. -/
theorem flags_after (game : Game) (scene : Scene) (choice : Choice) (now : Instant) :
    (game.after scene choice now).state.flags =
      ((game.state.visit scene.id).applyAll choice.actions).flags := by
  rw [after_state, ← flags_stateAfter game.state scene choice now]
  split <;> rfl

/-- A choice that is taken never takes points away. -/
theorem totalPoints_le_after (game : Game) (scene : Scene) (choice : Choice) (now : Instant) :
    game.state.totalPoints.toNat ≤ (game.after scene choice now).state.totalPoints.toNat := by
  have h := totalPoints_le_stateAfter game.state scene choice now
  rw [after_state]
  split <;> exact h

/-- The scenes that are entered once a choice is taken: its own, and the one it leads to if that is
an ending. -/
theorem hasVisited_after (game : Game) (scene : Scene) (choice : Choice) (now : Instant)
    (id : String) :
    (game.after scene choice now).state.hasVisited id =
      (game.leadsToEnding choice.nextSceneId && decide (id = choice.nextSceneId) ||
        (decide (id = scene.id) || game.state.hasVisited id)) := by
  -- Before the next scene is looked at only the own scene has been entered.
  have hleft : (stateAfter game.state scene choice now).hasVisited id =
      (decide (id = scene.id) || game.state.hasVisited id) := by
    unfold State.hasVisited
    rw [visited_stateAfter]
    exact NameSet.contains_add game.state.visited scene.id id
  rw [after_state]
  split
  next h => rw [State.hasVisited_visit, hleft, h, Bool.true_and]
  next h => rw [hleft, Bool.eq_false_iff.2 h, Bool.false_and, Bool.false_or]

/-- What a choice earns is told from the core. -/
private theorem core_earned (s : State) (scene : Scene) (choice : Choice) :
    (earned s scene choice).core = (earned s.core scene choice).core := by
  -- Entering the scene leaves the core as it is, and the actions look at nothing else.
  have h : ((s.visit scene.id).applyAll choice.actions).core =
      ((s.core.visit scene.id).applyAll choice.actions).core := by
    rw [State.core_applyAll, State.core_applyAll]
    rfl
  unfold earned
  split
  next points _ => exact congrArg (State.addPoints · points) h
  next => exact h

/-- Entered scenes and objectives have no part in what a choice does to the rest of a state. -/
theorem core_stateAfter (s : State) (scene : Scene) (choice : Choice) (now : Instant) :
    (stateAfter s scene choice now).core = (stateAfter s.core scene choice now).core := by
  -- The counters, the scene and the time are part of the core.
  have hmoved : ∀ e : State,
      ({ e with
        totalChoices := e.totalChoices + 1
        currentSceneId := choice.nextSceneId
        lastSaveTime := now } : State).core =
      { e.core with
        totalChoices := e.core.totalChoices + 1
        currentSceneId := choice.nextSceneId
        lastSaveTime := now } := fun _ => rfl
  rw [stateAfter_eq, stateAfter_eq, hmoved, hmoved, core_earned]

/-- The core of the state after a choice depends on the core of the state before it. -/
theorem core_after_congr {one other : Game} (hcore : one.state.core = other.state.core)
    (scene : Scene) (choice : Choice) (now : Instant) :
    (one.after scene choice now).state.core = (other.after scene choice now).state.core := by
  have h : ∀ game : Game, (game.after scene choice now).state.core =
      (stateAfter game.state.core scene choice now).core := fun game => by
    rw [after_state]
    -- An ending that is entered at once is no part of the core.
    split
    · rw [State.core_visit, core_stateAfter]
    · rw [core_stateAfter]
  rw [h, h, hcore]

end Game

end Gamebook
