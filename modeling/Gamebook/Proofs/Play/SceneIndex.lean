import Gamebook.Proofs.Play.Played

/-!
# Looking up scenes

The index of a story is built in one pass, and keeps the position of the first of several scenes
with one id. A game therefore finds the scene that a search through the list finds.

## Key results

- `get?_ofScenes`: the index holds the position of the first scene with an id
- `OnStory.scene?_eq`: a game looks up scenes like its activity
- `OnStory.mem_of_scene?`: what is found is a scene of the activity
- `OnStory.id_of_peek`: the scene that the player is in has the current id
-/

namespace Gamebook

namespace SceneIndex

/-- An index that is extended by more scenes answers first with what it held before. -/
private theorem get?_extend (index : SceneIndex) (position : Nat) (scenes : List Scene)
    (id : String) :
    (index.extend position scenes).get? id =
      (index.get? id).or ((scenes.findIdx? (·.id = id)).map (· + position)) := by
  -- Over the scenes: the index and the position grow with each of them.
  induction scenes generalizing index position with
  | nil => simp [extend]
  | cons scene scenes ih =>
    rw [extend, ih, Keyed.get?_insertNew, List.findIdx?_cons]
    by_cases hid : id = scene.id
    -- The scene has the id that is asked for: its position is new, or the index had one before.
    · subst hid
      cases index.get? scene.id <;> simp
    · have hne : ¬ scene.id = id := fun h => hid h.symm
      -- The position in the rest of the list is one less, where counting starts one later.
      have hshift : ∀ n : Nat, n + (position + 1) = n + 1 + position := fun n => by omega
      cases index.get? id <;> simp [hid, hne, hshift, Function.comp_def]

/-- The index holds the position of the first scene with an id. -/
theorem get?_ofScenes (scenes : List Scene) (id : String) :
    (ofScenes scenes).get? id = scenes.findIdx? (·.id = id) := by
  unfold ofScenes
  rw [get?_extend]
  simp

end SceneIndex

namespace Game.OnStory

variable {activity : Activity} {rules : Rules} {game : Game}

/-- A game looks up scenes like its activity. -/
theorem scene?_eq (h : OnStory activity rules game) (id : String) :
    game.scene? id = activity.scene? id := by
  unfold Game.scene? Activity.scene?
  rw [h.index_eq, h.activity_eq, SceneIndex.get?_ofScenes, List.find?_eq_bind_findIdx?_getElem?]

/-- A scene that is found by an id has that id. -/
theorem id_of_scene? (h : OnStory activity rules game) {id : String} {scene : Scene}
    (hscene : game.scene? id = some scene) : scene.id = id := by
  rw [h.scene?_eq] at hscene
  simpa using List.find?_some hscene

/-- A scene that is found belongs to the story. -/
theorem mem_of_scene? (h : OnStory activity rules game) {id : String} {scene : Scene}
    (hscene : game.scene? id = some scene) : scene ∈ activity.scenes := by
  rw [h.scene?_eq] at hscene
  exact List.mem_of_find?_eq_some hscene

/-- The scene that the player is in has the current id. -/
theorem id_of_peek (h : OnStory activity rules game) {scene : Scene}
    (hpeek : game.peek = some scene) : scene.id = game.state.currentSceneId :=
  h.id_of_scene? hpeek

end Game.OnStory

end Gamebook
