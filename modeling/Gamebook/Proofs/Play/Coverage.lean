import Gamebook.Proofs.Play.Completion
import Gamebook.Proofs.Play.SceneIndex
import Gamebook.Proofs.Play.Scored
import Gamebook.Proofs.Story.Issues
import Mathlib

/-!
# Who has seen every scene

The achievement for seeing every scene is given when as many scenes were visited as the story has.
Whatever is done in a game, only scenes of the story are ever visited: looking enters the scene that
the player is in, a choice belongs to a scene and is counted there, and where it leads is visited
only once it turns out to be an ending. In a story that uses no scene id twice the count therefore
says that nothing was left out.

## Key results

- `NameSet.size_eq_length_iff`: when counting names tells that all are there
- `seesOnly_step`: no move but loading visits what is no scene of the story
- `seesOnly_played`: neither does any play
- `has_sceneMaster_iff`: the count that earns the achievement
- `sceneMaster_iff_all_visited`: who has the achievement
-/

namespace Gamebook

/-- Names that all stand in a list without repetitions are as many as the list is long exactly if
none of the list is missing. -/
theorem NameSet.size_eq_length_iff (names : NameSet) {ids : List String} (hids : ids.Nodup)
    (hnames : ∀ id, names.contains id = true → id ∈ ids) :
    names.size = ids.length ↔ ∀ id ∈ ids, names.contains id = true := by
  have hkeys : ∀ id, id ∈ names.keys ↔ names.contains id = true := names.mem_keys_iff
  have hsub : names.keys.Subperm ids :=
    names.keys_nodup.subperm fun id hid => hnames id ((hkeys id).1 hid)
  -- As many names as ids, and only names that are ids: then they are the same.
  rw [names.size_eq]
  constructor
  · intro hcount id hid
    have hperm : names.keys.Perm ids := hsub.perm_of_length_le hcount.ge
    exact (hkeys id).1 (hperm.mem_iff.2 hid)
  · intro hall
    have hsup : ids.Subperm names.keys := hids.subperm fun id hid => (hkeys id).2 (hall id hid)
    exact Nat.le_antisymm hsub.length_le hsup.length_le

/-- The scenes that count as visited when a game is built. -/
def Past.visited (past : Past) : NameSet :=
  match past.snapshot with
  | some snapshot => NameSet.ofNames snapshot.visited
  | none => past.initial.visited

namespace Game

variable {activity : Activity} {rules : Rules} {game : Game}

/-! ## What is visited -/

/-- Whether all that was visited in a game are scenes of a story. -/
def SeesOnly (activity : Activity) (game : Game) : Prop :=
  ∀ id, game.state.hasVisited id = true → activity.HasScene id

/-- What a game finds under an id is a scene of its story with that id. -/
theorem OnStory.hasScene_of_scene? (hgame : OnStory activity rules game) {id : String}
    {scene : Scene} (hscene : game.scene? id = some scene) : activity.HasScene id :=
  ⟨scene, hgame.mem_of_scene? hscene, hgame.id_of_scene? hscene⟩

/-- The scene that the player is in is a scene of the story. -/
theorem OnStory.hasScene_of_peek (hgame : OnStory activity rules game) {scene : Scene}
    (hpeek : game.peek = some scene) : activity.HasScene scene.id := by
  rw [hgame.id_of_peek hpeek]
  exact hgame.hasScene_of_scene? hpeek

/-- A choice that is taken visits no more than its own scene, and its target if that is an ending of
the story. -/
theorem SeesOnly.after (h : SeesOnly activity game) (hgame : OnStory activity rules game)
    {scene : Scene} (hpeek : game.peek = some scene) (choice : Choice) (now : Instant) :
    SeesOnly activity (game.after scene choice now) := by
  intro id hid
  rw [hasVisited_after, Bool.or_eq_true, Bool.or_eq_true, Bool.and_eq_true, decide_eq_true_iff,
    decide_eq_true_iff] at hid
  rcases hid with ⟨hends, rfl⟩ | rfl | hbefore
  · -- A target that does not exist is no ending, and is left out.
    obtain ⟨ending, hending, -⟩ := (Option.any_eq_true _ _).1 hends
    exact hgame.hasScene_of_scene? hending
  · exact hgame.hasScene_of_peek hpeek
  · exact h id hbefore

/-- No move but loading visits what is no scene of the story. -/
theorem seesOnly_step (clock : Readings) (move : Move) (hmove : move.isLoad = false)
    (hgame : OnStory activity rules game) (h : SeesOnly activity game) :
    SeesOnly activity (game.step clock move).2 := by
  have hchange := change_step game clock move
  generalize (game.step clock move).2 = next at hchange ⊢
  -- A scene is entered by looking at it, or by a choice that leads to it.
  cases hchange with
  | stay => exact h
  | enter move hpeek =>
    intro id hid
    rw [State.hasVisited_visit, Bool.or_eq_true, decide_eq_true_iff] at hid
    rcases hid with rfl | hbefore
    · exact hgame.hasScene_of_peek hpeek
    · exact h id hbefore
  | complete objective =>
    obtain ⟨objectives, hstate⟩ := State.exists_complete_eq game.state objective
    unfold Game.complete SeesOnly
    rw [hstate]
    exact h
  | load snapshot => cases hmove
  | take hpeek hchoice => exact h.after hgame hpeek _ clock.first

/-- No play without loading visits what is no scene of the story. -/
theorem seesOnly_played (moves : List (Readings × Move)) (hmoves : ∀ m ∈ moves, m.2.isLoad = false)
    (hgame : OnStory activity rules game) (h : SeesOnly activity game) :
    SeesOnly activity (game.played moves) :=
  onStory_induction (SeesOnly activity) (·.isLoad = false)
    (fun _ clock move hmove hgame h => seesOnly_step clock move hmove hgame h) moves hmoves hgame h

/-- A game that is built with nothing visited has visited no other scenes. -/
theorem seesOnly_startOrResume (past : Past) (hfresh : past.visited = .empty) :
    SeesOnly activity
      (startOrResume activity rules past.initial past.snapshot past.builtAt) := by
  have hvisited : (startOrResume activity rules past.initial past.snapshot
      past.builtAt).state.visited = .empty := by
    rw [← hfresh]
    unfold Past.visited
    cases past.snapshot <;> rfl
  intro id hid
  unfold State.hasVisited at hid
  rw [hvisited] at hid
  cases hid

/-! ## The achievement -/

/-- The achievement for seeing every scene is given by number. -/
theorem has_sceneMaster_iff (game : Game) (now : Instant) :
    (game.score now).has .sceneMaster = true ↔
      game.state.visited.size = game.activity.scenes.length := by
  unfold Score.has
  rw [List.contains_iff_mem]
  show .sceneMaster ∈ Score.achievementsOf game.activity game.rules game.state game.log ↔ _
  unfold Score.achievementsOf
  -- The other achievements are other ones, whether they are given or not.
  simp only [List.mem_append, List.mem_ite_nil_right, List.mem_singleton, reduceCtorEq, and_false,
    or_false, false_or, and_true]

/-- In a story that uses no scene id twice a game that has visited only scenes of it has the
achievement exactly if it has visited all of them. -/
theorem SeesOnly.has_sceneMaster_iff (h : SeesOnly activity game)
    (hgame : OnStory activity rules game) (hdistinct : (activity.scenes.map (·.id)).Nodup)
    (now : Instant) :
    (game.score now).has .sceneMaster = true ↔
      ∀ scene ∈ activity.scenes, game.state.hasVisited scene.id = true := by
  have hcount := NameSet.size_eq_length_iff game.state.visited hdistinct fun id hid =>
    List.mem_map.2 (h id hid)
  rw [Game.has_sceneMaster_iff, hgame.activity_eq, ← List.length_map (·.id), hcount,
    List.forall_mem_map]
  exact Iff.rfl

/-- In every game of a story that uses no scene id twice, and that was built with nothing visited
and went on without loading, only scenes of the story are visited. A score that is asked for at any
moment, and one that a choice brings, tells of the achievement for seeing every scene exactly if
every scene of the story was visited by then. -/
theorem sceneMaster_iff_all_visited (activity : Activity) (rules : Rules) (past : Past)
    (hdistinct : (activity.scenes.map (·.id)).Nodup) (hfresh : past.visited = .empty)
    (hmoves : ∀ m ∈ past.moves, m.2.isLoad = false) :
    let game := past.game activity rules
    (∀ id, game.state.hasVisited id = true → activity.HasScene id) ∧
    (∀ now, (game.score now).has .sceneMaster = true ↔
      ∀ scene ∈ activity.scenes, game.state.hasVisited scene.id = true) ∧
    ∀ clock choiceId reply next, game.choose clock choiceId = (.ok reply, next) →
      ∀ score ∈ reply.score, score.has .sceneMaster = true ↔
        ∀ scene ∈ activity.scenes, next.state.hasVisited scene.id = true := by
  intro game
  have hgame : OnStory activity rules game := past.onStory_game activity rules
  have hsees : SeesOnly activity game :=
    seesOnly_played past.moves hmoves
      (onStory_startOrResume activity rules past.initial past.snapshot past.builtAt)
      (seesOnly_startOrResume past hfresh)
  refine ⟨hsees, fun now => hsees.has_sceneMaster_iff hgame hdistinct now,
    fun clock choiceId reply next hchoose score hscore => ?_⟩
  obtain ⟨scene, choice, hpeek, -, rfl, rfl⟩ := choose_eq_ok_iff.1 hchoose
  obtain rfl := eq_score_of_mem hscore
  exact (hsees.after hgame hpeek choice clock.first).has_sceneMaster_iff
    (hgame.after scene choice clock.first) hdistinct clock.second

/-! ### Up to the attic -/

/-- A story of a house with a hidden way up and a way out that leads nowhere. -/
def houseStory : Activity where
  id := "house"
  title := "House"
  startingSceneId := "hall"
  scenes :=
    [{ id := "hall", title := "Hall", description := ""
       choices :=
        [{ id := "climb", text := "Climb", nextSceneId := "attic", conditions := [.hasItem "key"] },
         { id := "leave", text := "Leave", nextSceneId := "street" }] },
     { id := "attic", title := "Attic", description := "", isEnding := true }]

/-- Who leaves the house has not seen every scene and visits nothing outside. Who climbs the hidden
way is told on arrival of having seen every scene. -/
theorem sceneMaster_iff_all_visited_houseStory :
    let left : Past :=
      { builtAt := .epoch
        moves := [(.epoch, .choices), (.epoch, .choose "leave"), (.epoch, .look)] }
    let house := ({ builtAt := .epoch } : Past).game houseStory {}
    (houseStory.scenes.map (·.id)).Nodup ∧ left.visited = .empty ∧
    (∀ m ∈ left.moves, m.2.isLoad = false) ∧
    (left.game houseStory {}).state.hasVisited "street" = false ∧
    ((left.game houseStory {}).score .epoch).has .sceneMaster = false ∧
    ∃ reply next score, house.choose .epoch "climb" = (.ok reply, next) ∧
      reply.score = some score ∧ score.has .sceneMaster = true := by
  intro left house
  have hdistinct : (houseStory.scenes.map (·.id)).Nodup := by decide
  have hmoves : ∀ m ∈ left.moves, m.2.isLoad = false := by decide
  obtain ⟨hinside, hmaster, -⟩ :=
    sceneMaster_iff_all_visited houseStory {} left hdistinct rfl hmoves
  obtain ⟨-, -, hreply⟩ :=
    sceneMaster_iff_all_visited houseStory {} { builtAt := .epoch } hdistinct rfl
      (List.forall_mem_nil _)
  obtain ⟨reply, next, score, hclimb, hscore⟩ : ∃ reply next score,
      house.choose .epoch "climb" = (.ok reply, next) ∧ reply.score = some score :=
    ⟨_, _, _, rfl, rfl⟩
  refine ⟨hdistinct, rfl, hmoves, ?_, ?_, reply, next, score, hclimb, hscore, ?_⟩
  -- Nobody has been in a street that the story does not have.
  · rw [Bool.eq_false_iff]
    intro hstreet
    exact absurd (hinside "street" hstreet) (by decide)
  · rw [Bool.eq_false_iff]
    intro hhas
    exact absurd ((hmaster .epoch).1 hhas) (by decide)
  · refine (hreply .epoch "climb" reply next hclimb score hscore).2 ?_
    -- The only choice in the hall leads to the last scene.
    obtain ⟨scene, choice, hpeek, hchoice, rfl, -⟩ := choose_eq_ok_iff.1 hclimb
    have hhall : house.peek = houseStory.scene? "hall" := by decide
    obtain rfl : houseStory.scenes[0] = scene := Option.some.inj (hhall.symm.trans hpeek)
    obtain rfl : houseStory.scenes[0].choices[0] = choice := Option.some.inj hchoice
    decide

end Game

end Gamebook
