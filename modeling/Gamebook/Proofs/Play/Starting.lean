import Gamebook.Proofs.Keyed
import Gamebook.Proofs.Play.SceneIndex

/-!
# Starting a story

Whether a story can be started is checked by a search through its scenes, and a game finds its
scenes through an index. The two agree, so a story that passes the check starts in the scene that
the search found, and one that fails it would start nowhere.

## Key results

- `scene?_eq_some_iff`: a search finds the first scene with an id
- `getElem_of_mem_ofScenes`: the index points at scenes of the story, under their own ids
- `look_start`: a fresh game starts where the story says
- `tryStart_eq_ok_iff`: which stories can be started
- `index_agrees_with_search`: so games, searches and the check agree about every id
-/

namespace Gamebook

/-- A search finds the first scene with an id. -/
theorem Activity.scene?_eq_some_iff {activity : Activity} {id : String} {scene : Scene} :
    activity.scene? id = some scene ↔
      ∃ before after, activity.scenes = before ++ scene :: after ∧ scene.id = id ∧
        ∀ other ∈ before, other.id ≠ id := by
  unfold Activity.scene?
  rw [List.find?_eq_some_iff_append]
  constructor
  · rintro ⟨hid, before, after, hscenes, hbefore⟩
    exact ⟨before, after, hscenes, by simpa using hid, by simpa using hbefore⟩
  · rintro ⟨before, after, hscenes, hid, hbefore⟩
    exact ⟨by simpa using hid, before, after, hscenes, by simpa using hbefore⟩

/-- The index points at scenes of the list, each under its own id. -/
theorem SceneIndex.getElem_of_mem_ofScenes {scenes : List Scene} {entry : String × Nat}
    (hentry : entry ∈ (ofScenes scenes).entries) :
    ∃ h : entry.2 < scenes.length, scenes[entry.2].id = entry.1 := by
  have hget : (ofScenes scenes).get? entry.1 = some entry.2 :=
    (ofScenes scenes).get?_of_mem hentry
  -- Entries of the index are found under their keys, so a search finds their positions.
  rw [get?_ofScenes] at hget
  obtain ⟨hlt, hid, -⟩ := List.findIdx?_eq_some_iff_getElem.1 hget
  exact ⟨hlt, by simpa using hid⟩

namespace Game

variable {activity : Activity} {rules : Rules} {initial : InitialState}
  {snapshot : Option Snapshot} {now : Instant}

/-- A fresh game starts in the scene that the story starts with, if that exists. -/
theorem look_start (activity : Activity) (rules : Rules) (now : Instant) :
    (start activity rules {} now).look.1 = activity.startingScene? := by
  rw [look_eq]
  exact (onStory_startOrResume activity rules {} none now).scene?_eq activity.startingSceneId

/-- A story can be started if a fresh game of it starts somewhere. -/
theorem tryStart_eq_ok_iff {built : Game} :
    tryStart activity rules initial snapshot now = .ok built ↔
      (∃ scene, (start activity rules {} now).look.1 = some scene) ∧
        built = startOrResume activity rules initial snapshot now := by
  unfold tryStart
  rw [look_start, ← Option.isSome_iff_exists]
  split
  next hstart => simp [hstart, eq_comm]
  next hnone => simp [hnone]

/-- A story cannot be started if a fresh game of it starts nowhere, and the message tells where that
would have been. -/
theorem tryStart_eq_error (hnowhere : (start activity rules {} now).look.1 = none) :
    tryStart activity rules initial snapshot now =
      .error (Activity.sceneNotFoundMessage activity.startingSceneId) := by
  rw [look_start] at hnowhere
  unfold tryStart
  rw [hnowhere]
  rfl

/-- However a game came about, it finds under every id what a search through the story finds, which
is the first scene with that id, or nothing. Its index points at scenes of the story only. A story
can be started, in whatever state or from whatever snapshot, exactly if a fresh game of it starts in
some scene, and that is the scene that the search finds. -/
theorem index_agrees_with_search (activity : Activity) (rules : Rules) (past : Past) :
    let game := past.game activity rules
    (∀ id, game.scene? id = activity.scene? id) ∧
    (∀ id scene, game.scene? id = some scene ↔
      ∃ before after, activity.scenes = before ++ scene :: after ∧ scene.id = id ∧
        ∀ other ∈ before, other.id ≠ id) ∧
    (∀ entry ∈ game.index.entries,
      ∃ h : entry.2 < activity.scenes.length, activity.scenes[entry.2].id = entry.1) ∧
    ∀ (initial : InitialState) (snapshot : Option Snapshot) (now : Instant),
      let fresh := start activity rules {} now
      let attempt := tryStart activity rules initial snapshot now
      fresh.look.1 = activity.startingScene? ∧
      ((∃ built, attempt = .ok built) ↔ ∃ scene, fresh.look.1 = some scene) ∧
      (∀ built, attempt = .ok built →
        built = startOrResume activity rules initial snapshot now) ∧
      (fresh.look.1 = none →
        attempt = .error (Activity.sceneNotFoundMessage activity.startingSceneId)) := by
  intro game
  have hgame : game.OnStory activity rules := past.onStory_game activity rules
  refine ⟨hgame.scene?_eq, fun id scene => ?_, fun entry hentry => ?_,
    fun initial snapshot now => ⟨look_start activity rules now, ?_, ?_, tryStart_eq_error⟩⟩
  · rw [hgame.scene?_eq, Activity.scene?_eq_some_iff]
  · rw [hgame.index_eq] at hentry
    exact SceneIndex.getElem_of_mem_ofScenes hentry
  · constructor
    · rintro ⟨built, hbuilt⟩
      exact (tryStart_eq_ok_iff.1 hbuilt).1
    · intro hscene
      exact ⟨_, tryStart_eq_ok_iff.2 ⟨hscene, rfl⟩⟩
  · intro built hbuilt
    exact (tryStart_eq_ok_iff.1 hbuilt).2

/-! ### Scenes that share ids -/

/-- A story in which scenes share ids, one of which is empty, and which starts in one of them. -/
def echoStory : Activity where
  id := "echo"
  title := "Echo"
  startingSceneId := ""
  scenes :=
    [{ id := "cave", title := "Cave", description := "" },
     { id := "", title := "Silence", description := "" },
     { id := "cave", title := "Cave again", description := "" },
     { id := "", title := "Silence again", description := "" }]

/-- The same scenes, none of which is where the story starts. -/
def lostStory : Activity := { echoStory with startingSceneId := "valley" }

/-- The first scene with an id is found, and only those are in the index. One of the stories can be
started, and the other is refused. -/
theorem index_agrees_with_search_echoStory :
    let game := ({ builtAt := .epoch } : Past).game echoStory {}
    game.index.entries = [("", 1), ("cave", 0)] ∧
    (∃ h : 0 < echoStory.scenes.length, echoStory.scenes[0].id = "cave") ∧
    game.scene? "cave" = some echoStory.scenes[0] ∧ game.scene? "" = some echoStory.scenes[1] ∧
    game.scene? "valley" = none ∧
    (∃ built, tryStart echoStory {} {} none .epoch = .ok built) ∧
    (start echoStory {} {} .epoch).look.1 = some echoStory.scenes[1] ∧
    tryStart lostStory {} {} none .epoch = .error "scene not found: \"valley\"" := by
  intro game
  have hentries : game.index.entries = [("", 1), ("cave", 0)] := by decide
  obtain ⟨hsearch, -, hindex, hattempt⟩ :=
    index_agrees_with_search echoStory {} { builtAt := .epoch }
  obtain ⟨hlook, hstarts, -, -⟩ := hattempt {} none .epoch
  obtain ⟨-, -, -, hlost⟩ :=
    (index_agrees_with_search lostStory {} { builtAt := .epoch }).2.2.2 {} none .epoch
  have hcave : ("cave", 0) ∈ game.index.entries := by
    rw [hentries]
    simp
  have hfirst : (start echoStory {} {} .epoch).look.1 = some echoStory.scenes[1] :=
    hlook.trans (by decide)
  exact ⟨hentries, hindex _ hcave, (hsearch "cave").trans (by decide),
    (hsearch "").trans (by decide), (hsearch "valley").trans (by decide),
    hstarts.2 ⟨_, hfirst⟩, hfirst, hlost (by decide)⟩

end Game

end Gamebook
