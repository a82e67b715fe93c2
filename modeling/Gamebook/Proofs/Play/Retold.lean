import Gamebook.Proofs.Play.SceneIndex
import Mathlib

/-!
# Stories told in other words

A story can be told again in other words: with other titles and texts, other items, and another name
for one character. What happens in it stays the same, so a player who makes the same moves in both
tellings sees the same ids, is refused the same choices, and earns the same result.

## Key results

- `Activity.Retold`: one story tells another in other words
- `State.Alike`: two states differ in items and in the name of a character only
- `Alike.step`: a move shows the same in both stories and keeps the games alike
- `Alike.run`: so does every play
-/

namespace Gamebook

/-! ## Retelling

Throughout, `k` and `k'` are the names of the character in the two stories. -/

/-- Whether an effect is another one in other words. -/
inductive Effect.Retold (k k' : String) : Effect → Effect → Prop where
  | addItem (item item' : String) : Retold k k' (.addItem item) (.addItem item')
  | removeItem (item item' : String) : Retold k k' (.removeItem item) (.removeItem item')
  | setFlag (flag : String) (value : FlagValue) :
    Retold k k' (.setFlag flag value) (.setFlag flag value)
  | modifyRelationship (difference : Int64) :
    Retold k k' (.modifyRelationship k difference) (.modifyRelationship k' difference)
  | addPoints (points : UInt32) : Retold k k' (.addPoints points) (.addPoints points)
  | unlockScene (scene : String) : Retold k k' (.unlockScene scene) (.unlockScene scene)

/-- Whether a condition is another one in other words. No condition may look at items. -/
inductive Condition.Retold (k k' : String) : Condition → Condition → Prop where
  | same (c : Condition) (hitem : c.aspect ≠ .item) (hrelationship : c.aspect ≠ .relationship) :
    Retold k k' c c
  | relationship (value : FlagValue) (operator : Operator) :
    Retold k k' ⟨.relationship, k, value, operator⟩ ⟨.relationship, k', value, operator⟩

/-- Whether a choice is another one in other words. Either both give feedback or neither does. -/
structure Choice.Retold (k k' : String) (c c' : Choice) : Prop where
  id_eq : c'.id = c.id
  nextSceneId_eq : c'.nextSceneId = c.nextSceneId
  conditions : List.Forall₂ (Condition.Retold k k') c.conditions c'.conditions
  actions : List.Forall₂ (fun a a' => a.effect.Retold k k' a'.effect) c.actions c'.actions
  points_eq : c'.points = c.points
  difficulty_eq : c'.difficulty = c.difficulty
  feedback_eq : c'.feedback.any (· ≠ "") = c.feedback.any (· ≠ "")

/-- Whether a scene is another one in other words. -/
structure Scene.Retold (k k' : String) (s s' : Scene) : Prop where
  id_eq : s'.id = s.id
  choices : List.Forall₂ (Choice.Retold k k') s.choices s'.choices
  isEnding_eq : s'.isEnding = s.isEnding
  lesson_eq : s'.lesson.isSome = s.lesson.isSome

/-- Whether a story is another one in other words. The objectives may be others, but as many. -/
structure Activity.Retold (k k' : String) (a a' : Activity) : Prop where
  startingSceneId_eq : a'.startingSceneId = a.startingSceneId
  scenes : List.Forall₂ (Scene.Retold k k') a.scenes a'.scenes
  maxChoices_eq : a'.maxChoices = a.maxChoices
  objectives_eq : a'.objectives.length = a.objectives.length

/-- What is found by a property that related elements share is related. -/
private theorem rel_find? {α β : Type} {R : α → β → Prop} {f : α → Bool} {f' : β → Bool}
    {xs : List α} {ys : List β} (h : List.Forall₂ R xs ys) (hf : ∀ x y, R x y → f' y = f x) :
    Option.Rel R (xs.find? f) (ys.find? f') := by
  -- Both lists are searched at the same pace.
  induction h with
  | nil => exact .none
  | @cons x y xs ys hxy _ ih =>
    rw [List.find?_cons, List.find?_cons, hf x y hxy]
    cases f x with
    | true => exact .some hxy
    | false => exact ih

/-- What related values show alike is the same. -/
private theorem map_eq_of_rel {α β γ : Type} {R : α → β → Prop} {f : α → γ} {f' : β → γ}
    {x : Option α} {y : Option β} (h : Option.Rel R x y) (hf : ∀ a b, R a b → f' b = f a) :
    y.map f' = x.map f := by
  cases h with
  | none => rfl
  | some hab => exact congrArg some (hf _ _ hab)

/-- A property that related values share is found in both or in neither. -/
private theorem any_eq_of_rel {α β : Type} {R : α → β → Prop} {f : α → Bool} {f' : β → Bool}
    {x : Option α} {y : Option β} (h : Option.Rel R x y) (hf : ∀ a b, R a b → f' b = f a) :
    y.any f' = x.any f := by
  cases h with
  | none => rfl
  | some hab => exact hf _ _ hab

variable {k k' : String}

/-- Two tellings find their scenes under the same ids. -/
theorem Activity.Retold.scene? {a a' : Activity} (h : a.Retold k k' a') (id : String) :
    Option.Rel (Scene.Retold k k') (a.scene? id) (a'.scene? id) :=
  rel_find? h.scenes fun s s' hs => by rw [hs.id_eq]

/-- Two tellings of a scene find their choices under the same ids. -/
theorem Scene.Retold.choice? {s s' : Scene} (h : s.Retold k k' s') (id : String) :
    Option.Rel (Choice.Retold k k') (s.choice? id) (s'.choice? id) :=
  rel_find? h.choices fun c c' hc => by rw [hc.id_eq]

/-- Choices keep their ids when they are told in other words. -/
theorem Choice.Retold.ids_eq {choices choices' : List Choice}
    (h : List.Forall₂ (Choice.Retold k k') choices choices') :
    choices'.map (·.id) = choices.map (·.id) := by
  induction h with
  | nil => rfl
  | cons hc _ ih => rw [List.map_cons, List.map_cons, ih, hc.id_eq]

/-! ## Alike states -/

namespace State

/-- Whether two states differ at most in what is carried and in relationships, and agree on the one
with the character. -/
structure Alike (k k' : String) (s s' : State) : Prop where
  currentSceneId_eq : s'.currentSceneId = s.currentSceneId
  flags_eq : s'.flags = s.flags
  relationship_eq : s'.relationship k' = s.relationship k
  visited_eq : s'.visited = s.visited
  totalChoices_eq : s'.totalChoices = s.totalChoices
  totalPoints_eq : s'.totalPoints = s.totalPoints
  startTime_eq : s'.startTime = s.startTime
  lastSaveTime_eq : s'.lastSaveTime = s.lastSaveTime
  completedObjectives_eq : s'.completedObjectives = s.completedObjectives

namespace Alike

variable {s s' : State}

/-- Both may enter the same scene. -/
theorem visit (h : s.Alike k k' s') (scene : String) :
    (s.visit scene).Alike k k' (s'.visit scene) :=
  { h with visited_eq := congrArg (NameSet.add · scene) h.visited_eq }

/-- Both may gain the same points. -/
theorem addPoints (h : s.Alike k k' s') (points : UInt32) :
    (s.addPoints points).Alike k k' (s'.addPoints points) :=
  { h with totalPoints_eq := congrArg (addCapped · points) h.totalPoints_eq }

/-- Both may mark the same objective. -/
theorem complete (h : s.Alike k k' s') (objective : String) :
    (s.complete objective).Alike k k' (s'.complete objective) := by
  unfold State.complete
  rw [h.completedObjectives_eq]
  split
  · exact h
  · exact { h with completedObjectives_eq := rfl }

/-- Both may take an effect, each in its own words. -/
theorem apply (h : s.Alike k k' s') {e e' : Effect} (he : e.Retold k k' e') :
    (s.apply e).Alike k k' (s'.apply e') := by
  cases he with
  -- Items may differ, so nothing is to be shown of effects on them.
  | addItem => exact { h with }
  | removeItem => exact { h with }
  | setFlag flag value => exact { h with flags_eq := congrArg (·.insert flag value) h.flags_eq }
  | addPoints points => exact h.addPoints points
  | unlockScene scene =>
    exact { h with
      flags_eq := congrArg (·.insert (Effect.unlockedFlag scene) (.bool true)) h.flags_eq }
  | modifyRelationship difference =>
    refine { h with relationship_eq := ?_ }
    -- Both look at the new score under the name that the story uses.
    have hnew : ∀ (t : State) (name : String),
        (t.apply (.modifyRelationship name difference)).relationship name =
          addClamped (t.relationship name) difference := fun t name => by
      show ((t.relationships.insert name _).get? name).getD 0 = _
      rw [Keyed.get?_insert, if_pos rfl]
      rfl
    rw [hnew, hnew, h.relationship_eq]

/-- Both may take the actions of a choice, each in its own words. -/
theorem applyAll (h : s.Alike k k' s') {actions actions' : List Action}
    (hactions : List.Forall₂ (fun a a' => a.effect.Retold k k' a'.effect) actions actions') :
    (s.applyAll actions).Alike k k' (s'.applyAll actions') := by
  unfold State.applyAll
  -- The states go on from action to action, so the induction is for any two of them.
  induction hactions generalizing s s' with
  | nil => exact h
  | cons ha _ ih => exact ih (h.apply ha)

/-- A condition holds in both or in neither. Here it matters that no condition looks at items. -/
theorem holds_eq (h : s.Alike k k' s') {c c' : Condition} (hc : c.Retold k k' c') :
    c'.holds s'.facts = c.holds s.facts := by
  cases hc with
  | same c hitem hrelationship =>
    -- What the condition can look at is the same in both states.
    have hflag : s'.facts.flag? c.key = s.facts.flag? c.key := by
      show s'.flags.get? c.key = s.flags.get? c.key
      rw [h.flags_eq]
    have hvisited : s'.facts.hasVisited c.key = s.facts.hasVisited c.key := by
      show s'.visited.contains c.key = s.visited.contains c.key
      rw [h.visited_eq]
    have hpoints : s'.facts.points = s.facts.points := h.totalPoints_eq
    unfold Condition.holds
    cases haspect : c.aspect with
    | item => exact absurd haspect hitem
    | relationship => exact absurd haspect hrelationship
    | flag => dsimp only; rw [hflag]
    | visited => dsimp only; rw [hvisited]
    | score => dsimp only; rw [hpoints]
    | unrecognized => rfl
  -- The score with the character is under another name, but it is the same.
  | relationship value operator =>
    show operator.compare (some (.integer (s'.relationship k'))) value =
      operator.compare (some (.integer (s.relationship k))) value
    rw [h.relationship_eq]

/-- So do the conditions of a choice. -/
theorem allHold_eq (h : s.Alike k k' s') {conditions conditions' : List Condition}
    (hconditions : List.Forall₂ (Condition.Retold k k') conditions conditions') :
    Condition.allHold conditions' s'.facts = Condition.allHold conditions s.facts := by
  unfold Condition.allHold
  induction hconditions with
  | nil => rfl
  | cons hc _ ih => rw [List.all_cons, List.all_cons, h.holds_eq hc, ih]

/-- A scene offers the same choices, told in other words. -/
theorem offeredIn (h : s.Alike k k' s') {scene scene' : Scene} (hscene : scene.Retold k k' scene') :
    List.Forall₂ (Choice.Retold k k') (Game.offeredIn s scene) (Game.offeredIn s' scene') :=
  List.rel_filter (fun _ _ hc => by dsimp only; rw [h.allHold_eq hc.conditions]) hscene.choices

/-- Both may take the same choice. -/
theorem stateAfter (h : s.Alike k k' s') {scene scene' : Scene} (hscene : scene.Retold k k' scene')
    {choice choice' : Choice} (hchoice : choice.Retold k k' choice') (now : Instant) :
    (Game.stateAfter s scene choice now).Alike k k' (Game.stateAfter s' scene' choice' now) := by
  have hacted : ((s.visit scene.id).applyAll choice.actions).Alike k k'
      ((s'.visit scene'.id).applyAll choice'.actions) := by
    rw [hscene.id_eq]
    exact (h.visit scene.id).applyAll hchoice.actions
  -- The counters move on whatever the points are.
  have hmoved : ∀ {t t' : State}, t.Alike k k' t' →
      State.Alike k k'
        { t with
          totalChoices := t.totalChoices + 1
          currentSceneId := choice.nextSceneId
          lastSaveTime := now }
        { t' with
          totalChoices := t'.totalChoices + 1
          currentSceneId := choice'.nextSceneId
          lastSaveTime := now } := fun ht =>
    { ht with
      currentSceneId_eq := hchoice.nextSceneId_eq
      totalChoices_eq := congrArg (· + 1) ht.totalChoices_eq
      lastSaveTime_eq := rfl }
  unfold Game.stateAfter
  rw [hchoice.points_eq]
  cases choice.points with
  | none => exact hmoved hacted
  | some points => exact hmoved (hacted.addPoints points)

end Alike

end State

/-! ## Alike games -/

/-- What an answer shows apart from texts: ids, truth values, refusals and results. -/
inductive Outline where
  | scene (id : Option String)
  | choices (ids : List String)
  | truth (b : Bool)
  | outcome (nextScene : Option String) (score : Option Score)
  | refused (refusal : Refusal)
  | score (score : Score)
  | other
  deriving DecidableEq

/-- What an answer shows apart from texts. -/
def Answer.outline : Answer → Outline
  | .scene found => .scene (found.map (·.id))
  | .choices offered => .choices (offered.map (·.id))
  | .truth b => .truth b
  | .outcome o => .outcome (o.nextScene.map (·.id)) o.score
  | .refused why => .refused why
  | .score result => .score result
  | .snapshot _ => .other
  | .done => .other

/-- Whether a move means the same in stories that are told in other words: it brings along no
conditions and takes no snapshot. -/
def Move.isWordless : Move → Bool
  | .holds _ | .save | .load _ => false
  | _ => true

namespace Game

/-- Whether two games of two stories are alike, and have the same log. -/
structure Alike (k k' : String) (a a' : Activity) (rules : Rules) (game game' : Game) : Prop where
  onStory : game.OnStory a rules
  onStory' : game'.OnStory a' rules
  state : game.state.Alike k k' game'.state
  log_eq : game'.log = game.log

namespace Alike

variable {a a' : Activity} {rules : Rules} {game game' : Game}

/-- The two find their scenes under the same ids. -/
theorem scene? (h : Alike k k' a a' rules game game') (hstory : a.Retold k k' a') (id : String) :
    Option.Rel (Scene.Retold k k') (game.scene? id) (game'.scene? id) := by
  rw [h.onStory.scene?_eq, h.onStory'.scene?_eq]
  exact hstory.scene? id

/-- The two stand in the same scene, told in other words. -/
theorem peek (h : Alike k k' a a' rules game game') (hstory : a.Retold k k' a') :
    Option.Rel (Scene.Retold k k') game.peek game'.peek := by
  unfold Game.peek
  rw [h.state.currentSceneId_eq]
  exact h.scene? hstory _

/-- The id of the current scene is the same. -/
theorem peek_id_eq (h : Alike k k' a a' rules game game') (hstory : a.Retold k k' a') :
    game'.peek.map (·.id) = game.peek.map (·.id) :=
  map_eq_of_rel (h.peek hstory) fun _ _ hscene => hscene.id_eq

/-- Both may enter the scene where they stand. -/
theorem entered (h : Alike k k' a a' rules game game') (hstory : a.Retold k k' a') :
    Alike k k' a a' rules game.entered game'.entered := by
  have hpeek := h.peek hstory
  rw [entered_eq, entered_eq]
  generalize game.peek = found, game'.peek = found' at hpeek ⊢
  cases hpeek with
  | none => exact h
  | @some scene scene' hscene =>
    refine ⟨⟨h.onStory.activity_eq, h.onStory.index_eq, h.onStory.rules_eq⟩,
      ⟨h.onStory'.activity_eq, h.onStory'.index_eq, h.onStory'.rules_eq⟩, ?_, h.log_eq⟩
    dsimp only
    rw [hscene.id_eq]
    exact h.state.visit scene.id

/-- The ids of the choices on offer are the same. -/
theorem peekChoices_ids_eq (h : Alike k k' a a' rules game game') (hstory : a.Retold k k' a') :
    game'.peekChoices.map (·.id) = game.peekChoices.map (·.id) := by
  have hpeek := h.peek hstory
  unfold Game.peekChoices
  generalize game.peek = found, game'.peek = found' at hpeek ⊢
  cases hpeek with
  | none => rfl
  | some hscene => exact Choice.Retold.ids_eq (h.state.offeredIn hscene)

/-- So they are if the current scene is entered first. -/
theorem choices_ids_eq (h : Alike k k' a a' rules game game') (hstory : a.Retold k k' a') :
    game'.choices.1.map (·.id) = game.choices.1.map (·.id) := by
  rw [choices_eq, choices_eq]
  exact (h.entered hstory).peekChoices_ids_eq hstory

/-! ### Results -/

/-- Both stories are complete or neither is. -/
theorem isComplete_eq (h : Alike k k' a a' rules game game') (hstory : a.Retold k k' a') :
    game'.isComplete = game.isComplete := by
  unfold isComplete objectivesDone limitReached
  rw [h.onStory.activity_eq, h.onStory'.activity_eq, hstory.maxChoices_eq, hstory.objectives_eq,
    h.state.completedObjectives_eq, h.state.totalChoices_eq]

/-- The results are the same in full. -/
theorem score_eq (h : Alike k k' a a' rules game game') (hstory : a.Retold k k' a')
    (now : Instant) : game'.score now = game.score now := by
  -- A result looks at the story only for how many scenes and objectives it has.
  have hscenes : a'.scenes.length = a.scenes.length := hstory.scenes.length_eq.symm
  have hempty : a'.scenes.isEmpty = a.scenes.isEmpty := by
    rw [Bool.eq_iff_iff, List.isEmpty_iff_length_eq_zero, List.isEmpty_iff_length_eq_zero, hscenes]
  unfold Game.score Score.compute Score.achievementsOf Score.recommendationsOf Score.isNarrow
  rw [h.onStory.activity_eq, h.onStory'.activity_eq, h.onStory.rules_eq, h.onStory'.rules_eq,
    h.log_eq, hscenes, hempty, hstory.objectives_eq, h.state.completedObjectives_eq,
    h.state.totalChoices_eq, h.state.totalPoints_eq, h.state.visited_eq, h.state.startTime_eq]

/-- Both stand at an ending or neither does. -/
theorem atEnding_eq (h : Alike k k' a a' rules game game') (hstory : a.Retold k k' a') :
    game'.atEnding = game.atEnding :=
  any_eq_of_rel (h.peek hstory) fun _ _ hscene => hscene.isEnding_eq

/-! ### Taking a choice -/

/-- An id leads to an ending in both or in neither. -/
theorem leadsToEnding_eq (h : Alike k k' a a' rules game game') (hstory : a.Retold k k' a')
    (id : String) : game'.leadsToEnding id = game.leadsToEnding id :=
  any_eq_of_rel (h.scene? hstory id) fun _ _ hscene => hscene.isEnding_eq

/-- A choice logs the same step in both. -/
theorem stepOf_eq (h : Alike k k' a a' rules game game') {scene scene' : Scene}
    (hscene : scene.Retold k k' scene') {choice choice' : Choice}
    (hchoice : choice.Retold k k' choice') (now : Instant) :
    game'.stepOf scene' choice' now = game.stepOf scene choice now := by
  unfold Game.stepOf Game.educationalValue
  rw [hscene.id_eq, hscene.lesson_eq, hchoice.id_eq, hchoice.difficulty_eq, hchoice.feedback_eq,
    h.state.lastSaveTime_eq]

/-- Both games may take the same choice. -/
theorem after (h : Alike k k' a a' rules game game') (hstory : a.Retold k k' a')
    {scene scene' : Scene} (hscene : scene.Retold k k' scene') {choice choice' : Choice}
    (hchoice : choice.Retold k k' choice') (now : Instant) :
    Alike k k' a a' rules (game.after scene choice now) (game'.after scene' choice' now) := by
  have hmoved := h.state.stateAfter hscene hchoice now
  -- Both lead to an ending or neither does, so the next scene is entered early in both or in none.
  rw [after_eq, after_eq]
  refine ⟨⟨h.onStory.activity_eq, h.onStory.index_eq, h.onStory.rules_eq⟩,
    ⟨h.onStory'.activity_eq, h.onStory'.index_eq, h.onStory'.rules_eq⟩, ?_, ?_⟩
  · dsimp only
    rw [h.leadsToEnding_eq hstory, hchoice.nextSceneId_eq]
    split
    · exact hmoved.visit choice.nextSceneId
    · exact hmoved
  · dsimp only
    rw [h.log_eq, h.stepOf_eq hscene hchoice now]

/-- A choice is refused in both stories for the same reason, or is taken in both. -/
theorem find (h : Alike k k' a a' rules game game') (hstory : a.Retold k k' a')
    (choiceId : String) :
    (∃ refusal, game.find choiceId = .error refusal ∧ game'.find choiceId = .error refusal) ∨
    ∃ scene scene' choice choice', game.find choiceId = .ok (scene, choice) ∧
      game'.find choiceId = .ok (scene', choice') ∧ scene.Retold k k' scene' ∧
      choice.Retold k k' choice' := by
  have hpeek := h.peek hstory
  unfold Game.find
  generalize game.peek = found, game'.peek = found' at hpeek ⊢
  -- Both are refused for the lack of a scene, or both look for the choice in it.
  cases hpeek with
  | none => exact .inl ⟨_, rfl, by rw [h.state.currentSceneId_eq]⟩
  | @some scene scene' hscene =>
    have hchoice := hscene.choice? choiceId
    dsimp only
    generalize scene.choice? choiceId = picked, scene'.choice? choiceId = picked' at hchoice ⊢
    cases hchoice with
    | none => exact .inl ⟨_, rfl, by rw [hscene.id_eq]⟩
    | some hchoice => exact .inr ⟨_, _, _, _, rfl, rfl, hscene, hchoice⟩

/-! ### Moves and plays -/

/-- Both games may mark the same objective. -/
theorem complete (h : Alike k k' a a' rules game game') (objective : String) :
    Alike k k' a a' rules (game.complete objective).2 (game'.complete objective).2 :=
  ⟨⟨h.onStory.activity_eq, h.onStory.index_eq, h.onStory.rules_eq⟩,
    ⟨h.onStory'.activity_eq, h.onStory'.index_eq, h.onStory'.rules_eq⟩,
    h.state.complete objective, h.log_eq⟩

/-- A choice is answered alike in both stories and keeps the games alike. -/
theorem step_choose (h : Alike k k' a a' rules game game') (hstory : a.Retold k k' a')
    (clock : Readings) (choiceId : String) :
    (game'.step clock (.choose choiceId)).1.outline =
        (game.step clock (.choose choiceId)).1.outline ∧
      Alike k k' a a' rules (game.step clock (.choose choiceId)).2
        (game'.step clock (.choose choiceId)).2 := by
  obtain ⟨refusal, hfind, hfind'⟩ | ⟨scene, scene', choice, choice', hfind, hfind', hscene,
    hchoice⟩ := h.find hstory choiceId
  · rw [step_choose_error hfind, step_choose_error hfind']
    exact ⟨rfl, h⟩
  · -- The outcome is read off the game after the choice.
    have hafter := h.after hstory hscene hchoice clock.first
    rw [step_choose_ok hfind, step_choose_ok hfind']
    refine ⟨?_, hafter⟩
    unfold Answer.outline outcome
    dsimp only
    rw [hafter.peek_id_eq hstory, hafter.atEnding_eq hstory, hafter.isComplete_eq hstory,
      hafter.score_eq hstory clock.second]

/-- A move shows the same in both stories and keeps the games alike. -/
theorem step (h : Alike k k' a a' rules game game') (hstory : a.Retold k k' a') (clock : Readings)
    (move : Move) (hmove : move.isWordless = true) :
    (game'.step clock move).1.outline = (game.step clock move).1.outline ∧
      Alike k k' a a' rules (game.step clock move).2 (game'.step clock move).2 := by
  cases move with
  | look =>
    rw [step_look, step_look]
    exact ⟨congrArg Outline.scene (h.peek_id_eq hstory), h.entered hstory⟩
  | peek => exact ⟨congrArg Outline.scene (h.peek_id_eq hstory), h⟩
  | choices =>
    rw [step_choices, step_choices]
    exact ⟨congrArg Outline.choices ((h.entered hstory).peekChoices_ids_eq hstory),
      h.entered hstory⟩
  | peekChoices => exact ⟨congrArg Outline.choices (h.peekChoices_ids_eq hstory), h⟩
  | choose choiceId => exact h.step_choose hstory clock choiceId
  | complete objective =>
    refine ⟨congrArg Outline.truth ?_, h.complete objective⟩
    rw [h.state.completedObjectives_eq]
  | isComplete => exact ⟨congrArg Outline.truth (h.isComplete_eq hstory), h⟩
  | score => exact ⟨congrArg Outline.score (h.score_eq hstory clock.first), h⟩
  | holds => cases hmove
  | save => cases hmove
  | load => cases hmove

/-- A play shows the same in both stories and keeps the games alike. -/
theorem run (h : Alike k k' a a' rules game game') (hstory : a.Retold k k' a')
    (moves : List (Readings × Move)) (hmoves : ∀ m ∈ moves, m.2.isWordless = true) :
    (game'.run moves).1.map Answer.outline = (game.run moves).1.map Answer.outline ∧
      Alike k k' a a' rules (game.played moves) (game'.played moves) := by
  -- Answers and games go together: the next answer needs the games to be alike up to there.
  induction moves generalizing game game' with
  | nil => exact ⟨rfl, h⟩
  | cons m moves ih =>
    obtain ⟨clock, move⟩ := m
    obtain ⟨hanswer, hnext⟩ := h.step hstory clock move (hmoves _ List.mem_cons_self)
    obtain ⟨hanswers, hlast⟩ := ih hnext fun m hm => hmoves m (List.mem_cons_of_mem _ hm)
    exact ⟨List.cons_eq_cons.2 ⟨hanswer, hanswers⟩, hlast⟩

end Alike

/-- Fresh games of the two stories are alike. -/
theorem alike_start {a a' : Activity} (hstory : a.Retold k k' a') (rules : Rules) (now : Instant) :
    Alike k k' a a' rules (start a rules {} now) (start a' rules {} now) := by
  refine ⟨onStory_startOrResume a rules {} none now, onStory_startOrResume a' rules {} none now,
    ⟨hstory.startingSceneId_eq, rfl, rfl, rfl, rfl, rfl, rfl, rfl, rfl⟩, rfl⟩

end Game

end Gamebook
