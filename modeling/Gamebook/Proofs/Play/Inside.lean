import Gamebook.Proofs.Play.Effects
import Gamebook.Proofs.Play.SceneIndex
import Gamebook.Proofs.Story.Issues

/-!
# Games of stories without issues

In a story without issues each choice leads to a scene of the story. A player who is in a scene
therefore stays in the story, whatever moves are made: through endings, after the story is complete,
and along hidden choices. Only a snapshot from elsewhere can lead out of it.

## Key results

- `inside_step`: each move from a scene of a story that leads on leads to a scene again
- `inside_played`: so does every play
- `never_lost`: in a story without issues the player is always in a scene, each choice of which can
  be taken
-/

namespace Gamebook

/-- Whether a move leads to a scene of a story if it loads a snapshot. -/
def Move.StaysIn (activity : Activity) : Move → Prop
  | .load snapshot => activity.HasScene snapshot.currentSceneId
  | _ => True

instance decidableStaysIn (activity : Activity) : (move : Move) → Decidable (move.StaysIn activity)
  | .load snapshot => Activity.decidableHasScene activity snapshot.currentSceneId
  | .look | .peek | .choices | .peekChoices | .holds _ | .choose _ | .complete _ | .isComplete
  | .score | .save => isTrue trivial

/-- The id of the scene that a game is told to be built in, if it is told one. -/
def Past.place? (past : Past) : Option String :=
  match past.snapshot with
  | some snapshot => some snapshot.currentSceneId
  | none => past.initial.currentSceneId

namespace Game

variable {activity : Activity} {rules : Rules} {game : Game}

/-- Whether the player is in a scene of a story. -/
def Inside (activity : Activity) (game : Game) : Prop :=
  activity.HasScene game.state.currentSceneId

/-- A player inside the story stands in one of its scenes. -/
theorem Inside.exists_peek (h : Inside activity game) (hgame : OnStory activity rules game) :
    ∃ scene ∈ activity.scenes, game.peek = some scene := by
  unfold peek
  rw [hgame.scene?_eq]
  exact h.exists_scene?

/-- A game that is not told where to start starts with the story. -/
theorem inside_startOrResume (hstart : activity.HasScene activity.startingSceneId) (past : Past)
    (hplace : ∀ id ∈ past.place?, activity.HasScene id) :
    Inside activity
      (startOrResume activity rules past.initial past.snapshot past.builtAt) := by
  unfold Past.place? at hplace
  -- A saved game names its own place, and a fresh one the place that it is given.
  cases hsnapshot : past.snapshot with
  | some snapshot =>
    rw [hsnapshot] at hplace
    exact hplace _ rfl
  | none =>
    rw [hsnapshot] at hplace
    show activity.HasScene (past.initial.currentSceneId.getD activity.startingSceneId)
    cases hid : past.initial.currentSceneId with
    | some id => exact hplace id hid
    | none => exact hstart

/-- A move from a scene of a story that leads on leads to a scene of it again. -/
theorem inside_step (hlinked : activity.WellLinked) (clock : Readings) (move : Move)
    (hmove : move.StaysIn activity) (hgame : OnStory activity rules game)
    (h : Inside activity game) : Inside activity (game.step clock move).2 := by
  have hchange := change_step game clock move
  generalize (game.step clock move).2 = next at hchange ⊢
  -- Only a choice and a load move the player.
  cases hchange with
  | stay => exact h
  | enter => exact h
  | complete objective =>
    obtain ⟨objectives, hstate⟩ := State.exists_complete_eq game.state objective
    unfold Game.complete Inside
    rw [hstate]
    exact h
  | load snapshot => exact hmove
  | take hpeek hchoice =>
    -- The choice belongs to a scene of the story, so its target does as well.
    obtain ⟨scene, hscene, hpeek'⟩ := h.exists_peek hgame
    obtain rfl := Option.some.inj (hpeek.symm.trans hpeek')
    unfold Inside
    rw [currentSceneId_after]
    exact hlinked.targets _ hscene _ (List.mem_of_find?_eq_some hchoice)

/-- A play that begins in a scene of a story that leads on stays in the story. -/
theorem inside_played (hlinked : activity.WellLinked) (moves : List (Readings × Move))
    (hmoves : ∀ m ∈ moves, m.2.StaysIn activity) (hgame : OnStory activity rules game)
    (h : Inside activity game) : Inside activity (game.played moves) :=
  onStory_induction (Inside activity) (Move.StaysIn activity)
    (fun _ clock move hmove hgame h => inside_step hlinked clock move hmove hgame h)
    moves hmoves hgame h

/-- The player who is in a scene can take the choices of the scene and no others. -/
theorem exists_choose_eq_ok_iff {scene : Scene} (hpeek : game.peek = some scene)
    (clock : Readings) (choiceId : String) :
    (∃ reply next, game.choose clock choiceId = (.ok reply, next)) ↔
      ∃ choice ∈ scene.choices, choice.id = choiceId := by
  constructor
  · rintro ⟨reply, next, h⟩
    obtain ⟨there, choice, hthere, hchoice, -⟩ := choose_eq_ok_iff.1 h
    obtain rfl := Option.some.inj (hpeek.symm.trans hthere)
    exact ⟨choice, List.mem_of_find?_eq_some hchoice, by simpa using List.find?_some hchoice⟩
  · rintro ⟨choice, hmem, hid⟩
    -- The first choice with the id is found, if there is one at all.
    obtain ⟨found, hfound⟩ : ∃ found, scene.choice? choiceId = some found :=
      Option.isSome_iff_exists.1 (List.find?_isSome.2 ⟨choice, hmem, decide_eq_true hid⟩)
    exact ⟨_, _, choose_eq_ok_iff.2 ⟨scene, found, hpeek, hfound, rfl, rfl⟩⟩

/-- The player who is in a scene is refused only what is no choice of the scene. -/
theorem eq_of_choose_eq_error {next : Game} {scene : Scene} (hpeek : game.peek = some scene)
    {clock : Readings} {choiceId : String} {refusal : Refusal}
    (h : game.choose clock choiceId = (.error refusal, next)) :
    refusal = .unknownChoice scene.id choiceId := by
  have hfind := (choose_eq_error_iff.1 h).1
  unfold find at hfind
  rw [hpeek] at hfind
  cases hchoice : scene.choice? choiceId with
  | none => simpa [hchoice] using hfind.symm
  | some choice => simp [hchoice] at hfind

/-- In a story without issues the player is always in a scene of the story, whether the game was
built at the start, in another scene or from a snapshot, and whatever moves were made since that do
not load a snapshot from elsewhere. The choices of the scene can be taken and no others, what is
refused is no choice of it and changes nothing, and unless it is an ending it has a choice. -/
theorem never_lost (activity : Activity) (rules : Rules) (past : Past)
    (hclean : activity.issues = []) (hplace : ∀ id ∈ past.place?, activity.HasScene id)
    (hmoves : ∀ m ∈ past.moves, m.2.StaysIn activity) :
    let game := past.game activity rules
    ∃ scene ∈ activity.scenes, game.peek = some scene ∧
      (∀ clock choiceId, (∃ reply next, game.choose clock choiceId = (.ok reply, next)) ↔
        ∃ choice ∈ scene.choices, choice.id = choiceId) ∧
      (∀ clock choiceId refusal next, game.choose clock choiceId = (.error refusal, next) →
        refusal = .unknownChoice scene.id choiceId ∧ next = game) ∧
      (scene.isEnding = false → scene.choices ≠ []) := by
  intro game
  obtain ⟨hnamed, hlinked⟩ := (Activity.issues_eq_nil_iff activity).1 hclean
  have hinside : Inside activity game :=
    inside_played hlinked past.moves hmoves
      (onStory_startOrResume activity rules past.initial past.snapshot past.builtAt)
      (inside_startOrResume hnamed.start past hplace)
  obtain ⟨scene, hscene, hpeek⟩ := hinside.exists_peek (past.onStory_game activity rules)
  exact ⟨scene, hscene, hpeek, exists_choose_eq_ok_iff hpeek,
    fun clock choiceId refusal next h => ⟨eq_of_choose_eq_error hpeek h, eq_of_choose_error h⟩,
    hlinked.onward scene hscene⟩

/-! ### A garden tour -/

/-- A story that can be played again from its ending, with a hidden way to the ending. -/
def gardenStory : Activity where
  id := "garden"
  title := "Garden"
  startingSceneId := "gate"
  scenes :=
    [{ id := "gate", title := "Gate", description := ""
       choices :=
        [{ id := "enter", text := "Go in", nextSceneId := "hall" },
         { id := "climb", text := "Climb", nextSceneId := "lawn"
           conditions := [.hasItem "rope"] }] },
     { id := "hall", title := "Hall", description := ""
       choices := [{ id := "leave", text := "Go out", nextSceneId := "lawn" }] },
     { id := "lawn", title := "Lawn", description := "", isEnding := true
       choices := [{ id := "return", text := "Go back", nextSceneId := "gate" }] }]

/-- A snapshot that was taken in a scene of the garden. -/
def gardenSnapshot (sceneId : String) : Snapshot :=
  .capture (State.start { currentSceneId := some sceneId } "gate" .epoch) []

/-- A game that resumes in the hall, goes on past the ending, takes the hidden choice after a
refused one, and is put back before the gate. -/
def gardenPast : Past where
  snapshot := some (gardenSnapshot "hall")
  builtAt := .epoch
  moves :=
    [(.epoch, .choose "leave"), (.epoch, .choose "return"), (.epoch, .choose "leave"),
      (.epoch, .choose "climb"), (.epoch, .load (gardenSnapshot "gate"))]

/-- Before the gate of the garden the hidden choice can be taken, and the choice of another scene is
refused. -/
theorem never_lost_gardenStory :
    let game := gardenPast.game gardenStory {}
    gardenStory.issues = [] ∧ (∀ id ∈ gardenPast.place?, gardenStory.HasScene id) ∧
    (∀ m ∈ gardenPast.moves, m.2.StaysIn gardenStory) ∧
    (∃ scene, game.peek = some scene ∧ scene.id = "gate") ∧
    (∃ reply next, game.choose .epoch "climb" = (.ok reply, next)) ∧
    game.choose .epoch "leave" = (.error (.unknownChoice "gate" "leave"), game) := by
  intro game
  have hclean : gardenStory.issues = [] := by decide +kernel
  have hplace : ∀ id ∈ gardenPast.place?, gardenStory.HasScene id := by decide
  have hmoves : ∀ m ∈ gardenPast.moves, m.2.StaysIn gardenStory := by decide
  have hgate : game.peek = gardenStory.scene? "gate" := by decide +kernel
  obtain ⟨scene, -, hpeek, hchoices, hrefused, -⟩ :=
    never_lost gardenStory {} gardenPast hclean hplace hmoves
  -- The player stands at the gate.
  obtain rfl : gardenStory.scenes[0] = scene := Option.some.inj (hgate.symm.trans hpeek)
  refine ⟨hclean, hplace, hmoves, ⟨_, hpeek, rfl⟩, (hchoices .epoch "climb").2 (by decide), ?_⟩
  rcases hleave : game.choose .epoch "leave" with ⟨refusal | reply, next⟩
  · obtain ⟨rfl, rfl⟩ := hrefused .epoch "leave" refusal next hleave
    rfl
  · exact absurd ((hchoices .epoch "leave").1 ⟨reply, next, hleave⟩) (by decide)

end Game

end Gamebook
